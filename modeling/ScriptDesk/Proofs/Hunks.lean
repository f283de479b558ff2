import ScriptDesk.Proofs.Patch
import ScriptDesk.Proofs.Regions

/-! Hunks of a script that lines up.  Trimming and cutting take equal lines out of equal regions, so
the lines between two hunks are equal on both sides; the rows of a hunk are the lines of the regions
in it, and its header is right where the regions at its two ends are. -/

namespace ScriptDesk.Diff

variable {a b : List Text} {i j n : Nat} {r : Region} {rs ss : List Region}

theorem Region.Sits.firstLines (h : r.Sits a b i j) (same : r.same = true) (some : 0 < n) :
    (r.firstLines n).Sits a b i j := by
  have given := h.oldLen_pos same
  obtain ⟨len, old, new, agree⟩ := h.of_same same
  refine ⟨?_, ?_⟩
  · dsimp only [Region.firstLines]
    omega
  · simp only [Region.firstLines, same]
    exact ⟨by omega, old, new, agree_take agree (Nat.sub_le _ _)⟩

theorem Region.Sits.lastLines (h : r.Sits a b i j) (same : r.same = true) (some : 0 < n) :
    (r.lastLines n).Sits a b (i + (r.oldLen - n)) (j + (r.oldLen - n)) := by
  have given := h.oldLen_pos same
  obtain ⟨len, old, new, agree⟩ := h.of_same same
  refine ⟨?_, ?_⟩
  · dsimp only [Region.lastLines]
    omega
  · simp only [Region.lastLines, same]
    exact ⟨by omega, by omega, by omega, agree_drop agree (Nat.sub_le _ _)⟩

/-- Regions from a place on that lie inside both lists, with equal lines below them. -/
structure Lays (a b : List Text) (i j : Nat) (rs : List Region) : Prop where
  laid : Laid a b i j rs
  oldFits : i + oldSpan rs ≤ a.length
  newFits : j + newSpan rs ≤ b.length
  rest : a.drop (i + oldSpan rs) = b.drop (j + newSpan rs)

theorem lays_append : Lays a b i j (rs ++ ss) ↔
    Laid a b i j rs ∧ Lays a b (i + oldSpan rs) (j + newSpan rs) ss := by
  constructor
  · rintro ⟨laid, oldFits, newFits, rest⟩
    rw [oldSpan_append, ← Nat.add_assoc] at oldFits rest
    rw [newSpan_append, ← Nat.add_assoc] at newFits rest
    obtain ⟨above, below⟩ := laid_append.1 laid
    exact ⟨above, below, oldFits, newFits, rest⟩
  · rintro ⟨above, below, oldFits, newFits, rest⟩
    refine ⟨laid_append.2 ⟨above, below⟩, ?_, ?_, ?_⟩
    · rwa [oldSpan_append, ← Nat.add_assoc]
    · rwa [newSpan_append, ← Nat.add_assoc]
    · rwa [oldSpan_append, newSpan_append, ← Nat.add_assoc, ← Nat.add_assoc]

theorem lays_cons : Lays a b i j (r :: rs) ↔
    r.Sits a b i j ∧ Lays a b (i + r.oldLen) (j + r.newLen) rs := by
  have split : Lays a b i j ([r] ++ rs) ↔ _ := lays_append
  simpa [Along] using split

theorem drop_eq_of_shorter {a b : List Text} {len m : Nat} (agree : Agree a b i j len)
    (less : m ≤ len) (rest : a.drop (i + len) = b.drop (j + len)) :
    a.drop (i + m) = b.drop (j + m) := by
  refine drop_eq_of_agree (agree_drop agree less) ?_
  rwa [Nat.add_assoc, Nat.add_assoc, Nat.add_sub_cancel' less]

theorem Lays.firstLines (h : Lays a b i j [r]) (same : r.same = true) (some : 0 < n) :
    Lays a b i j [r.firstLines n] := by
  obtain ⟨sits, -, oldFits, newFits, rest⟩ := lays_cons.1 h
  have first := sits.firstLines same some
  obtain ⟨len, -, -, agree⟩ := sits.of_same same
  simp only [oldSpan_nil, newSpan_nil, Nat.add_zero, len] at oldFits newFits rest
  refine lays_cons.2 ⟨first, trivial, ?_, ?_, ?_⟩
  · dsimp only [Region.firstLines, oldSpan_nil]
    omega
  · dsimp only [Region.firstLines, newSpan_nil]
    omega
  · simp only [Region.firstLines, oldSpan_nil, newSpan_nil, Nat.add_zero, len]
    exact drop_eq_of_shorter agree (Nat.sub_le _ _) rest

theorem Lays.trimLast (some : 0 < n) (h : Lays a b i j rs) :
    Lays a b i j (Diff.trimLast n rs) := by
  fun_induction Diff.trimLast n rs generalizing i j with
  | case1 => exact h
  | case2 r =>
    split
    · next same => exact h.firstLines same some
    · exact h
  | case3 r s rs ih =>
    obtain ⟨sits, below⟩ := lays_cons.1 h
    exact lays_cons.2 ⟨sits, ih below⟩

theorem map_same_trimFirst (n : Nat) (rs : List Region) :
    (trimFirst n rs).map (·.same) = rs.map (·.same) := by
  cases rs with
  | nil => rfl
  | cons r rs =>
    rw [trimFirst]
    split <;> rfl

theorem map_same_trimLast (n : Nat) (rs : List Region) :
    (trimLast n rs).map (·.same) = rs.map (·.same) := by
  fun_induction trimLast n rs with
  | case1 => rfl
  | case2 r => split <;> rfl
  | case3 r s rs ih => rw [List.map_cons, ih, ← List.map_cons]

theorem map_old_head_trimLast (n : Nat) (rs : List Region) :
    (trimLast n rs).head?.map (·.old) = rs.head?.map (·.old) := by
  fun_induction trimLast n rs with
  | case1 => rfl
  | case2 r => split <;> rfl
  | case3 => rfl

/-- Regions to be cut into hunks: no two changes are neighbours, and the first region records its
old place whatever it is. -/
structure Ready (a b : List Text) (i j : Nat) (rs : List Region) : Prop
    extends Lays a b i j rs where
  apart : Apart rs
  first : ∀ old ∈ rs.head?.map (·.old), old = i

theorem Divides.ready {rs : List Region} (h : Divides a b rs) : Ready a b 0 0 rs where
  laid := h.covers.laid
  oldFits := Nat.le_of_eq h.covers.oldEnd
  newFits := Nat.le_of_eq h.covers.newEnd
  rest := by rw [h.covers.oldEnd, h.covers.newEnd, List.drop_length, List.drop_length]
  apart := h.apart
  first := by simpa using h.first

theorem Ready.trimLast (some : 0 < n) (h : Ready a b i j rs) :
    Ready a b i j (Diff.trimLast n rs) where
  toLays := h.toLays.trimLast some
  apart := by
    rw [Apart, map_same_trimLast]
    exact h.apart
  first := by
    rw [map_old_head_trimLast]
    exact h.first

theorem Ready.trimFirst (some : 0 < n) (h : Ready a b i j rs) :
    ∃ off, Agree a b i j off ∧ Ready a b (i + off) (j + off) (Diff.trimFirst n rs) := by
  have apart : Apart (Diff.trimFirst n rs) := by
    rw [Apart, map_same_trimFirst]
    exact h.apart
  cases rs with
  | nil => exact ⟨0, nofun, h⟩
  | cons r rs =>
    rw [Diff.trimFirst] at apart ⊢
    split at apart
    · next same =>
      rw [if_pos same]
      obtain ⟨sits, below⟩ := lays_cons.1 h.toLays
      have last := sits.lastLines same some
      obtain ⟨len, old, -, agree⟩ := sits.of_same same
      refine ⟨r.oldLen - n, agree_take agree (Nat.sub_le _ _), lays_cons.2 ⟨last, ?_⟩, apart, ?_⟩
      · dsimp only [Region.lastLines]
        rw [len] at below ⊢
        rwa [Nat.add_assoc, Nat.add_assoc, Nat.add_sub_cancel' (Nat.sub_le _ _)]
      · rintro _ ⟨⟩
        exact congrArg (· + (r.oldLen - n)) old
    · next change =>
      rw [if_neg change]
      exact ⟨0, nofun, h⟩

theorem oldLines_region (sits : r.Sits a b i j) :
    (r.rows a b).filterMap Row.oldLine? = slice a i r.oldLen := by
  have place : slice a r.old r.oldLen = slice a i r.oldLen := by
    obtain none | some := Nat.eq_zero_or_pos r.oldLen
    · rw [none, slice, slice, List.take_zero, List.take_zero]
    · rw [sits.old_eq some]
  rw [Region.rows, place]
  split
  · simp [List.filterMap_map, Function.comp_def, Row.oldLine?]
  · simp [List.filterMap_map, Function.comp_def, Row.oldLine?]

theorem newLines_region (sits : r.Sits a b i j) :
    (r.rows a b).filterMap Row.newLine? = slice b j r.newLen := by
  rw [Region.rows]
  split
  · next same =>
    obtain ⟨len, rfl, -, agree⟩ := sits.of_same same
    rw [len, ← slice_eq_of_agree agree]
    simp [List.filterMap_map, Function.comp_def, Row.newLine?]
  · have place : slice b r.new r.newLen = slice b j r.newLen := by
      obtain none | some := Nat.eq_zero_or_pos r.newLen
      · rw [none, slice, slice, List.take_zero, List.take_zero]
      · rw [sits.new_eq some]
    rw [place]
    simp [List.filterMap_map, Function.comp_def, Row.newLine?]

theorem lines_of_laid {h : Hunk} (laid : Laid a b i j h) :
    (Hunk.rows a b h).filterMap Row.oldLine? = slice a i (oldSpan h) ∧
      (Hunk.rows a b h).filterMap Row.newLine? = slice b j (newSpan h) := by
  induction h generalizing i j with
  | nil => exact ⟨by simp [Hunk.rows, slice], by simp [Hunk.rows, slice]⟩
  | cons r h ih =>
    obtain ⟨sits, below⟩ := laid
    obtain ⟨old, new⟩ := ih below
    rw [Hunk.rows] at old new ⊢
    rw [List.flatMap_cons, List.filterMap_append, List.filterMap_append, oldLines_region sits,
      newLines_region sits, old, new, oldSpan_cons, newSpan_cons, slice_add, slice_add]
    exact ⟨rfl, rfl⟩

def Hunk.patch (a b : List Text) (h : Hunk) : Patch.Hunk where
  old := ⟨(Hunk.oldExtent h).start, (Hunk.oldExtent h).stop - (Hunk.oldExtent h).start⟩
  new := ⟨(Hunk.newExtent h).start, (Hunk.newExtent h).stop - (Hunk.newExtent h).start⟩
  rows := Hunk.rows a b h

theorem slice_ne_nil {lines : List Text} {start len : Nat} (some : 0 < len)
    (fits : start + len ≤ lines.length) : slice lines start len ≠ [] := by
  rw [ne_eq, ← List.length_eq_zero_iff, length_slice fits]
  exact some.ne'

theorem rows_of_same (sits : r.Sits a b i j) (same : r.same = true)
    (fits : i + r.oldLen ≤ a.length) : r.rows a b ≠ [] ∧ ∀ x ∈ r.rows a b, x.isKept = true := by
  have some := sits.oldLen_pos same
  rw [Region.rows, if_pos same, sits.old_eq some]
  exact ⟨by simpa using slice_ne_nil some fits, by simp [Row.isKept]⟩

theorem rows_of_deletion (sits : r.Sits a b i j) (none : r.newLen = 0)
    (fits : i + r.oldLen ≤ a.length) :
    r.rows a b ≠ [] ∧ ∀ x ∈ r.rows a b, x.isKept = false ∧ x.isDeleted = true := by
  have change := sits.same_eq_false (.inr none)
  have some : 0 < r.oldLen := by simpa [none] using sits.1
  have rows : r.rows a b = (slice a i r.oldLen).map .deleted := by
    simp [Region.rows, change, none, slice, sits.old_eq some]
  rw [rows]
  exact ⟨by simpa using slice_ne_nil some fits, by simp [Row.isKept, Row.isDeleted]⟩

theorem rows_of_insertion (sits : r.Sits a b i j) (none : r.oldLen = 0)
    (fits : j + r.newLen ≤ b.length) :
    r.rows a b ≠ [] ∧ ∀ x ∈ r.rows a b, x.isKept = false ∧ x.isInserted = true := by
  have change := sits.same_eq_false (.inl none)
  have some : 0 < r.newLen := by simpa [none] using sits.1
  have rows : r.rows a b = (slice b j r.newLen).map .inserted := by
    simp [Region.rows, change, none, slice, sits.new_eq some]
  rw [rows]
  exact ⟨by simpa using slice_ne_nil some fits, by simp [Row.isKept, Row.isInserted]⟩

theorem lone_of_append {change : Row → Bool} {xs ys : List Row} (some : xs ≠ [])
    (all : ∀ x ∈ xs, x.isKept = false ∧ change x = true)
    (next : ∀ y ∈ ys.head?, y.isKept = true) : Patch.Lone change (xs ++ ys) := by
  have stop : ys.takeWhile (!·.isKept) = [] := by
    cases ys with
    | nil => rfl
    | cons y ys => simpa using next y rfl
  have edge : (xs ++ ys).takeWhile (!·.isKept) = xs := by
    rw [List.takeWhile_append_of_pos (by simpa using fun x mem => (all x mem).1), stop,
      List.append_nil]
  rw [Patch.Lone, edge]
  exact ⟨some, fun x mem => (all x mem).2⟩

theorem rows_append (a b : List Text) (rs ss : List Region) :
    Hunk.rows a b (rs ++ ss) = Hunk.rows a b rs ++ Hunk.rows a b ss :=
  List.flatMap_append

structure Whole (a b : List Text) (i j : Nat) (h : Hunk) : Prop where
  laid : Laid a b i j h
  apart : Apart h
  oldFits : i + oldSpan h ≤ a.length
  newFits : j + newSpan h ≤ b.length

theorem kept_below {h : Hunk} (whole : Whole a b i j (r :: h)) (change : r.same = false) :
    ∀ y ∈ (Hunk.rows a b h).head?, y.isKept = true := by
  cases h with
  | nil => exact nofun
  | cons s h =>
    obtain ⟨-, sits, -⟩ := whole.laid
    have next : r.same = true ∨ s.same = true := (List.isChain_cons_cons.1 whole.apart).1
    have same : s.same = true := next.resolve_left (by simp [change])
    have fits := whole.oldFits
    rw [oldSpan_cons, oldSpan_cons] at fits
    obtain ⟨some, kept⟩ := rows_of_same sits same (by omega)
    intro y mem
    rw [Hunk.rows, List.flatMap_cons, List.head?_append_of_ne_nil _ some] at mem
    exact kept y (List.mem_of_head? mem)

theorem kept_above {h : Hunk} (whole : Whole a b i j (h ++ [r])) (change : r.same = false) :
    ∀ y ∈ (Hunk.rows a b h).reverse.head?, y.isKept = true := by
  obtain rfl | ⟨t, s, rfl⟩ := List.eq_nil_or_concat h
  · exact nofun
  · obtain ⟨laid, apart, oldFits, -⟩ := whole
    rw [List.concat_eq_append, List.append_assoc] at laid apart oldFits
    obtain ⟨-, sits, -⟩ := laid_append.1 laid
    have next : s.same = true ∨ r.same = true := by
      rw [Apart, List.map_append] at apart
      exact (List.isChain_cons_cons.1 (List.isChain_append.1 apart).2.1).1
    have same : s.same = true := next.resolve_right (by simp [change])
    rw [oldSpan_append, List.singleton_append, oldSpan_cons] at oldFits
    obtain ⟨some, kept⟩ := rows_of_same sits same (by omega)
    intro y mem
    rw [List.concat_eq_append, rows_append, List.reverse_append, Hunk.rows, List.flatMap_singleton,
      List.head?_append_of_ne_nil _ (by simpa using some), List.head?_reverse] at mem
    exact kept y (List.mem_of_getLast? mem)

theorem lone_below {h : Hunk} {change : Row → Bool} (whole : Whole a b i j (r :: h))
    (differs : r.same = false)
    (edge : r.rows a b ≠ [] ∧ ∀ x ∈ r.rows a b, x.isKept = false ∧ change x = true) :
    Patch.Lone change (Hunk.rows a b (r :: h)) :=
  lone_of_append edge.1 edge.2 (kept_below whole differs)

theorem lone_above {h : Hunk} {change : Row → Bool} (whole : Whole a b i j (h ++ [r]))
    (differs : r.same = false)
    (edge : r.rows a b ≠ [] ∧ ∀ x ∈ r.rows a b, x.isKept = false ∧ change x = true) :
    Patch.Lone change (Hunk.rows a b (h ++ [r])).reverse := by
  rw [rows_append, List.reverse_append, Hunk.rows, List.flatMap_singleton]
  exact lone_of_append (by simpa using edge.1) (by simpa using edge.2) (kept_above whole differs)

theorem newStart_eq {h : Hunk} (whole : Whole a b i j (r :: h))
    (some : ¬ Patch.Lone Row.isDeleted (Hunk.rows a b (r :: h))) : r.new = j := by
  obtain ⟨sits, -⟩ := whole.laid
  have fits := whole.oldFits
  rw [oldSpan_cons] at fits
  obtain none | given := Nat.eq_zero_or_pos r.newLen
  · have edge := rows_of_deletion sits none (by omega)
    exact absurd (lone_below whole (sits.same_eq_false (.inr none)) edge) some
  · exact sits.new_eq given

theorem oldStop_eq {h : Hunk} (whole : Whole a b i j (h ++ [r]))
    (some : ¬ Patch.Lone Row.isInserted (Hunk.rows a b (h ++ [r])).reverse) :
    r.old = i + oldSpan h := by
  obtain ⟨-, sits, -⟩ := laid_append.1 whole.laid
  have fits := whole.newFits
  rw [newSpan_append, newSpan_cons] at fits
  obtain none | given := Nat.eq_zero_or_pos r.oldLen
  · have edge := rows_of_insertion sits none (by omega)
    exact absurd (lone_above whole (sits.same_eq_false (.inl none)) edge) some
  · exact sits.old_eq given

theorem newStop_eq {h : Hunk} (whole : Whole a b i j (h ++ [r]))
    (some : ¬ Patch.Lone Row.isDeleted (Hunk.rows a b (h ++ [r])).reverse) :
    r.new = j + newSpan h := by
  obtain ⟨-, sits, -⟩ := laid_append.1 whole.laid
  have fits := whole.oldFits
  rw [oldSpan_append, oldSpan_cons] at fits
  obtain none | given := Nat.eq_zero_or_pos r.newLen
  · have edge := rows_of_deletion sits none (by omega)
    exact absurd (lone_above whole (sits.same_eq_false (.inr none)) edge) some
  · exact sits.new_eq given

theorem placed_patch {h : Hunk} (whole : Whole a b i j h) (some : h ≠ [])
    (first : ∀ old ∈ h.head?.map (·.old), old = i) : (Hunk.patch a b h).Placed i j := by
  obtain ⟨oldRows, newRows⟩ := lines_of_laid whole.laid
  have oldLength : (Hunk.patch a b h).oldLines.length = oldSpan h := by
    rw [Patch.Hunk.oldLines, Hunk.patch, oldRows, length_slice whole.oldFits]
  have newLength : (Hunk.patch a b h).newLines.length = newSpan h := by
    rw [Patch.Hunk.newLines, Hunk.patch, newRows, length_slice whole.newFits]
  have oldStart : (Hunk.oldExtent h).start = i := by
    obtain ⟨r, t, rfl⟩ := List.exists_cons_of_ne_nil some
    exact first r.old rfl
  have newStart : ¬ Patch.Lone Row.isDeleted (Hunk.rows a b h) → (Hunk.newExtent h).start = j := by
    obtain ⟨r, t, rfl⟩ := List.exists_cons_of_ne_nil some
    exact newStart_eq whole
  obtain ⟨t, r, rfl⟩ : ∃ t r, h = t ++ [r] :=
    ⟨h.dropLast, h.getLast some, (List.dropLast_append_getLast some).symm⟩
  have oldStop : ¬ Patch.Lone Row.isInserted (Hunk.rows a b (t ++ [r])).reverse →
      (Hunk.oldExtent (t ++ [r])).stop = i + oldSpan (t ++ [r]) := by
    intro lone
    simp [Hunk.oldExtent, oldStop_eq whole lone, Nat.add_assoc]
  have newStop : ¬ Patch.Lone Row.isDeleted (Hunk.rows a b (t ++ [r])).reverse →
      (Hunk.newExtent (t ++ [r])).stop = j + newSpan (t ++ [r]) := by
    intro lone
    simp [Hunk.newExtent, newStop_eq whole lone, Nat.add_assoc]
  refine ⟨oldStart, newStart, fun lone => ?_, fun top lone => ?_⟩
  · rw [oldLength, Hunk.patch]
    simp only [oldStart, oldStop lone, Nat.add_sub_cancel_left]
  · rw [newLength, Hunk.patch]
    simp only [newStart top, newStop lone, Nat.add_sub_cancel_left]

open Patch (Turns)

theorem turns_hunk {h : Hunk} {hs : List Patch.Hunk} (whole : Whole a b i j h) (some : h ≠ [])
    (first : ∀ old ∈ h.head?.map (·.old), old = i)
    (below : Turns Patch.Hunk.Placed (i + oldSpan h) (j + newSpan h) hs
      (a.drop (i + oldSpan h)) (b.drop (j + newSpan h))) :
    Turns Patch.Hunk.Placed i j (Hunk.patch a b h :: hs) (a.drop i) (b.drop j) := by
  obtain ⟨old, new⟩ := lines_of_laid whole.laid
  have oldLines : (Hunk.patch a b h).oldLines = slice a i (oldSpan h) := old
  have newLines : (Hunk.patch a b h).newLines = slice b j (newSpan h) := new
  rw [drop_eq_slice_append a i (oldSpan h), drop_eq_slice_append b j (newSpan h), ← oldLines,
    ← newLines]
  refine .here (placed_patch whole some first) ?_
  rwa [oldLines, newLines, length_slice whole.oldFits, length_slice whole.newFits]

theorem drop_eq_of_same (h : Lays a b i j rs) (same : ∀ r ∈ rs, r.same = true) :
    a.drop i = b.drop j := by
  induction rs generalizing i j with
  | nil => exact h.rest
  | cons r rs ih =>
    obtain ⟨sits, below⟩ := lays_cons.1 h
    obtain ⟨here, others⟩ := List.forall_mem_cons.1 same
    have rest := ih below others
    obtain ⟨len, -, -, agree⟩ := sits.of_same here
    rw [len] at rest
    exact drop_eq_of_agree agree rest

theorem turns_below {placed : Nat → Nat → Patch.Hunk → Prop} {hs : List Patch.Hunk} {len : Nat}
    (agree : Agree a b i j len) (fits : i + len ≤ a.length)
    (h : Turns placed (i + len) (j + len) hs (a.drop (i + len)) (b.drop (j + len))) :
    Turns placed i j hs (a.drop i) (b.drop j) := by
  rw [drop_eq_slice_append a i len, drop_eq_slice_append b j len, ← slice_eq_of_agree agree]
  refine .skip _ ?_
  rwa [length_slice fits]

theorem oldSpan_firstLines {open_ : Hunk} (long : n ≤ r.oldLen) :
    oldSpan (open_ ++ [r.firstLines n]) = oldSpan open_ + n := by
  rw [oldSpan_append, oldSpan_cons, oldSpan_nil]
  dsimp only [Region.firstLines]
  omega

theorem newSpan_firstLines {open_ : Hunk} (same : r.newLen = r.oldLen) (long : n ≤ r.oldLen) :
    newSpan (open_ ++ [r.firstLines n]) = newSpan open_ + n := by
  rw [newSpan_append, newSpan_cons, newSpan_nil]
  dsimp only [Region.firstLines]
  omega

theorem Ready.cut {open_ : Hunk} (some : 0 < n) (same : r.same = true) (long : n < r.oldLen)
    (h : Ready a b i j (open_ ++ r :: rs)) :
    Whole a b i j (open_ ++ [r.firstLines n]) := by
  obtain ⟨above, lays⟩ := lays_append.1 h.toLays
  obtain ⟨sits, rest⟩ := lays_cons.1 lays
  have oldFits := rest.oldFits
  have newFits := rest.newFits
  obtain ⟨len, -⟩ := sits.of_same same
  refine ⟨laid_append.2 ⟨above, sits.firstLines same some, trivial⟩, ?_, ?_, ?_⟩
  · have apart := h.apart
    rw [Apart, List.append_cons, List.map_append] at apart
    simpa [Apart, Region.firstLines] using (List.isChain_append.1 apart).1
  · rw [oldSpan_firstLines long.le]
    omega
  · rw [newSpan_firstLines len long.le]
    omega

theorem Ready.goOn {open_ : Hunk} (some : 0 < n) (same : r.same = true)
    (h : Ready a b i j (open_ ++ r :: rs)) :
    Ready a b (i + oldSpan open_ + (r.oldLen - n)) (j + newSpan open_ + (r.oldLen - n))
      (r.lastLines n :: rs) := by
  obtain ⟨-, lays⟩ := lays_append.1 h.toLays
  obtain ⟨sits, rest⟩ := lays_cons.1 lays
  obtain ⟨len, old, -⟩ := sits.of_same same
  refine ⟨lays_cons.2 ⟨sits.lastLines same some, ?_⟩, ?_, ?_⟩
  · dsimp only [Region.lastLines]
    rw [len] at rest ⊢
    rwa [Nat.add_assoc _ (_ - n), Nat.add_assoc _ (_ - n), Nat.add_sub_cancel' (Nat.sub_le _ _)]
  · have apart := h.apart
    rw [Apart, List.map_append] at apart
    exact (List.isChain_append.1 apart).2.1
  · rintro _ ⟨⟩
    exact congrArg (· + (r.oldLen - n)) old

theorem turns_cut {open_ : Hunk} {hs : List Patch.Hunk} (some : 0 < n) (same : r.same = true)
    (long : 2 * n < r.oldLen) (ready : Ready a b i j (open_ ++ r :: rs))
    (below : ∀ {i j}, Ready a b i j (r.lastLines n :: rs) →
      Turns Patch.Hunk.Placed i j hs (a.drop i) (b.drop j)) :
    Turns Patch.Hunk.Placed i j (Hunk.patch a b (open_ ++ [r.firstLines n]) :: hs) (a.drop i)
      (b.drop j) := by
  have whole := ready.cut some same (n := n) (by omega)
  obtain ⟨sits, rest⟩ := lays_cons.1 (lays_append.1 ready.toLays).2
  have fits := rest.oldFits
  obtain ⟨len, -, -, agree⟩ := sits.of_same same
  have enough : n ≤ r.oldLen := by omega
  have between : Agree a b (i + oldSpan open_ + n) (j + newSpan open_ + n) (r.oldLen - n - n) :=
    agree_take (agree_drop agree (by omega)) (Nat.sub_le _ _)
  have next := below (ready.goOn some same (n := n))
  refine turns_hunk whole (by simp) ?_ ?_
  · cases open_ with
    | nil => exact ready.first
    | cons => exact ready.first
  · rw [oldSpan_firstLines enough, newSpan_firstLines len enough, ← Nat.add_assoc, ← Nat.add_assoc]
    refine turns_below between (by omega) ?_
    have gap : n + (r.oldLen - n - n) = r.oldLen - n := by omega
    rwa [Nat.add_assoc _ n, Nat.add_assoc _ n, gap]

theorem turns_cutHunks (some : 0 < n) (open_ : Hunk) (ready : Ready a b i j (open_.reverse ++ rs)) :
    Turns Patch.Hunk.Placed i j ((cutHunks n open_ rs).map (Hunk.patch a b)) (a.drop i)
      (b.drop j) := by
  fun_induction cutHunks n open_ rs generalizing i j with
  | case1 open_ same =>
    rw [List.append_nil] at ready
    rw [drop_eq_of_same ready.toLays (by simpa using same)]
    exact .rest i j _
  | case2 open_ change =>
    rw [List.append_nil] at ready
    have some : open_.reverse ≠ [] := by
      rintro none
      rw [List.reverse_eq_nil_iff.1 none] at change
      exact change rfl
    refine turns_hunk ⟨ready.laid, ready.apart, ready.oldFits, ready.newFits⟩ some ready.first ?_
    rw [ready.rest]
    exact .rest _ _ _
  | case3 open_ r rs long ih =>
    simp only [Bool.and_eq_true, decide_eq_true_eq] at long
    rw [List.reverse_cons]
    exact turns_cut some long.1 long.2 ready ih
  | case4 open_ r rs short ih =>
    refine ih ?_
    rwa [List.reverse_cons, List.append_assoc]

theorem turns_hunks {es : List Edit} (some : 0 < n) (h : Kept a b es) :
    Turns Patch.Hunk.Placed 0 0 ((hunks n es).map (Hunk.patch a b)) a b := by
  obtain ⟨off, agree, ready⟩ := h.divides.ready.trimFirst some
  have fits : 0 + off ≤ a.length := Nat.le_trans (Nat.le_add_right _ _) ready.oldFits
  exact turns_below (i := 0) (j := 0) agree fits (turns_cutHunks some [] (ready.trimLast some))

end ScriptDesk.Diff
