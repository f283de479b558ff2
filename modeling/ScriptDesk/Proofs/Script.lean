import Mathlib.Algebra.Ring.Nat
import Mathlib.Data.List.Infix
import ScriptDesk.Proofs.Search

namespace ScriptDesk.Diff

section Along

variable {ε : Type} {old new : ε → Nat} {P Q : Nat → Nat → ε → Prop} {i j : Nat}

/-- Pieces that take so many lines of either side hold where those above them end. -/
def Along (old new : ε → Nat) (P : Nat → Nat → ε → Prop) : Nat → Nat → List ε → Prop
  | _, _, [] => True
  | i, j, e :: es => P i j e ∧ Along old new P (i + old e) (j + new e) es

theorem along_append {es fs : List ε} : Along old new P i j (es ++ fs) ↔
    Along old new P i j es ∧
      Along old new P (i + (es.map old).sum) (j + (es.map new).sum) fs := by
  induction es generalizing i j with
  | nil => simp [Along]
  | cons e es ih => simp [Along, ih, and_assoc, Nat.add_assoc]

theorem Along.mono (weaker : ∀ i j e, P i j e → Q i j e) {es : List ε}
    (h : Along old new P i j es) : Along old new Q i j es := by
  induction es generalizing i j with
  | nil => trivial
  | cons e es ih => exact ⟨weaker i j e h.1, ih h.2⟩

theorem Along.forall_mem {R : ε → Prop} (implies : ∀ i j e, P i j e → R e) {es : List ε}
    (h : Along old new P i j es) : ∀ e ∈ es, R e := by
  induction es generalizing i j with
  | nil => exact nofun
  | cons e es ih => exact List.forall_mem_cons.2 ⟨implies i j e h.1, ih h.2⟩

theorem Along.head {es : List ε} (h : Along old new P i j es) : ∀ e ∈ es.head?, P i j e := by
  cases es with
  | nil => exact nofun
  | cons e es =>
    rintro _ ⟨⟩
    exact h.1

end Along

variable {α : Type} {a b xs ys : List α} {i j n m p q : Nat}

def Agree (a b : List α) (i j len : Nat) : Prop := ∀ k < len, a[i + k]? = b[j + k]?

theorem getElem?_of_part (part : xs <+: a.drop i) {k : Nat} (h : k < xs.length) :
    a[i + k]? = xs[k]? := by
  obtain ⟨rest, whole⟩ := part
  rw [← List.getElem?_drop, ← whole, List.getElem?_append_left h]

theorem agree_of_parts (old : xs <+: a.drop i) (new : xs <+: b.drop j) :
    Agree a b i j xs.length := by
  intro k h
  rw [getElem?_of_part old h, getElem?_of_part new h]

theorem agree_one : Agree a b i j 1 ↔ a[i]? = b[j]? := by
  refine ⟨fun h => h 0 Nat.one_pos, fun line k less => ?_⟩
  rw [Nat.lt_one_iff.1 less]
  exact line

theorem agree_add : Agree a b i j (n + m) ↔ Agree a b i j n ∧ Agree a b (i + n) (j + n) m := by
  constructor
  · refine fun h => ⟨fun k less => h k (Nat.lt_add_right m less), fun k less => ?_⟩
    rw [Nat.add_assoc, Nat.add_assoc]
    exact h (n + k) (Nat.add_lt_add_left less n)
  · rintro ⟨above, below⟩ k less
    obtain inside | outside := Nat.lt_or_ge k n
    · exact above k inside
    · obtain ⟨k, rfl⟩ := Nat.exists_eq_add_of_le outside
      have line := below k (Nat.lt_of_add_lt_add_left less)
      rwa [Nat.add_assoc, Nat.add_assoc] at line

theorem agree_succ : Agree a b i j (n + 1) ↔
    a[i]? = b[j]? ∧ Agree a b (i + 1) (j + 1) n := by
  rw [Nat.add_comm, agree_add, agree_one]

theorem agree_succ_last : Agree a b i j (n + 1) ↔
    Agree a b i j n ∧ a[i + n]? = b[j + n]? := by
  rw [agree_add, agree_one]

theorem agree_take (agree : Agree a b i j n) (less : m ≤ n) : Agree a b i j m := by
  obtain ⟨k, rfl⟩ := Nat.exists_eq_add_of_le less
  exact (agree_add.1 agree).1

theorem agree_drop (agree : Agree a b i j n) (less : m ≤ n) :
    Agree a b (i + m) (j + m) (n - m) := by
  obtain ⟨k, rfl⟩ := Nat.exists_eq_add_of_le less
  rw [Nat.add_sub_cancel_left]
  exact (agree_add.1 agree).2

theorem drop_eq_slice_append (a : List α) (i len : Nat) :
    a.drop i = slice a i len ++ a.drop (i + len) := by
  rw [slice, ← List.drop_drop, List.take_append_drop]

theorem slice_add (a : List α) (i n m : Nat) :
    slice a i (n + m) = slice a i n ++ slice a (i + n) m := by
  rw [slice, slice, slice, List.take_add, List.drop_drop]

theorem length_slice (fits : i + n ≤ a.length) : (slice a i n).length = n := by
  rw [slice, List.length_take, List.length_drop]
  omega

theorem slice_eq_of_agree (agree : Agree a b i j n) : slice a i n = slice b j n := by
  refine List.ext_getElem? fun k => ?_
  rw [slice, slice, List.getElem?_take, List.getElem?_take]
  split
  · next less => rw [List.getElem?_drop, List.getElem?_drop, agree k less]
  · rfl

theorem drop_eq_of_agree (agree : Agree a b i j n) (rest : a.drop (i + n) = b.drop (j + n)) :
    a.drop i = b.drop j := by
  rw [drop_eq_slice_append a i n, drop_eq_slice_append b j n, slice_eq_of_agree agree, rest]

def Edit.oldLen (e : Edit) : Nat :=
  match e.kind with
  | .keep | .delete => e.len
  | .insert => 0

def Edit.newLen (e : Edit) : Nat :=
  match e.kind with
  | .keep | .insert => e.len
  | .delete => 0

def oldSize (es : List Edit) : Nat := (es.map (·.oldLen)).sum

def newSize (es : List Edit) : Nat := (es.map (·.newLen)).sum

@[simp] theorem oldSize_nil : oldSize [] = 0 := rfl

@[simp] theorem newSize_nil : newSize [] = 0 := rfl

@[simp] theorem oldSize_cons (e : Edit) (es : List Edit) :
    oldSize (e :: es) = e.oldLen + oldSize es := by
  simp [oldSize]

@[simp] theorem newSize_cons (e : Edit) (es : List Edit) :
    newSize (e :: es) = e.newLen + newSize es := by
  simp [newSize]

@[simp] theorem oldSize_append (es fs : List Edit) :
    oldSize (es ++ fs) = oldSize es + oldSize fs := by
  simp [oldSize]

@[simp] theorem newSize_append (es fs : List Edit) :
    newSize (es ++ fs) = newSize es + newSize fs := by
  simp [newSize]

def Edit.Exact (a b : List α) (i j : Nat) (e : Edit) : Prop :=
  0 < e.len ∧ e.old = i ∧ e.new = j ∧ (e.kind = .keep → Agree a b i j e.len)

/-- A script that leads from one place to another and records every place on its way. -/
structure Bridges (a b : List α) (i j i' j' : Nat) (es : List Edit) : Prop where
  exact : Along Edit.oldLen Edit.newLen (Edit.Exact a b) i j es
  oldEnd : i + oldSize es = i'
  newEnd : j + newSize es = j'

theorem Bridges.append {i' j' i'' j'' : Nat} {es fs : List Edit} (above : Bridges a b i j i' j' es)
    (below : Bridges a b i' j' i'' j'' fs) : Bridges a b i j i'' j'' (es ++ fs) where
  exact := by
    refine along_append.2 ⟨above.exact, ?_⟩
    have rest := below.exact
    rwa [← above.oldEnd, ← above.newEnd] at rest
  oldEnd := by rw [oldSize_append, ← Nat.add_assoc, above.oldEnd, below.oldEnd]
  newEnd := by rw [newSize_append, ← Nat.add_assoc, above.newEnd, below.newEnd]

theorem bridges_run (kind : Kind) {len : Nat} (kept : kind = .keep → Agree a b i j len) :
    Bridges a b i j (i + Edit.oldLen ⟨kind, i, j, len⟩) (j + Edit.newLen ⟨kind, i, j, len⟩)
      (run kind i j len) := by
  rw [run]
  split
  · next none =>
    subst none
    cases kind <;> exact ⟨trivial, rfl, rfl⟩
  · next some => exact ⟨⟨⟨Nat.pos_of_ne_zero some, rfl, rfl, kept⟩, trivial⟩, by simp, by simp⟩

theorem bridges_keep {len : Nat} (kept : Agree a b i j len) :
    Bridges a b i j (i + len) (j + len) (run .keep i j len) := bridges_run .keep fun _ => kept

theorem bridges_delete (a b : List α) (i j len : Nat) :
    Bridges a b i j (i + len) j (run .delete i j len) := bridges_run .delete nofun

theorem bridges_insert (a b : List α) (i j len : Nat) :
    Bridges a b i j i (j + len) (run .insert i j len) := bridges_run .insert nofun

theorem bridges_replace (a b : List α) (i j n m : Nat) :
    Bridges a b i j (i + n) (j + m) (run .delete i j n ++ run .insert (i + n) j m) :=
  (bridges_delete a b i j n).append (bridges_insert a b (i + n) j m)

theorem bridges_one_sided {n m : Nat} (none : n = 0 ∨ m = 0) :
    Bridges a b i j (i + n) (j + m) (run .delete i j n ++ run .insert i j m) := by
  obtain rfl | rfl := none
  · exact bridges_replace a b i j 0 m
  · exact bridges_replace a b i j n 0

theorem commonPrefix_spec [BEq α] [LawfulBEq α] (xs ys : List α) :
    commonPrefix xs ys ≤ xs.length ∧ commonPrefix xs ys ≤ ys.length ∧
      xs.take (commonPrefix xs ys) = ys.take (commonPrefix xs ys) := by
  fun_induction commonPrefix xs ys with
  | case1 x xs y ys equal ih =>
    obtain ⟨left, right, same⟩ := ih
    refine ⟨Nat.succ_le_succ left, Nat.succ_le_succ right, ?_⟩
    rw [List.take_succ_cons, List.take_succ_cons, same, eq_of_beq equal]
  | case2 => simp
  | case3 => simp

theorem commonSuffix_spec [BEq α] [LawfulBEq α] (xs ys : List α) :
    commonSuffix xs ys ≤ xs.length ∧ commonSuffix xs ys ≤ ys.length ∧
      xs.drop (xs.length - commonSuffix xs ys) = ys.drop (ys.length - commonSuffix xs ys) := by
  obtain ⟨left, right, same⟩ := commonPrefix_spec xs.reverse ys.reverse
  rw [List.length_reverse] at left right
  refine ⟨left, right, ?_⟩
  rw [List.take_reverse, List.take_reverse] at same
  exact List.reverse_inj.1 same

theorem part_take (part : xs <+: a.drop i) (p : Nat) : xs.take p <+: a.drop i :=
  (List.take_prefix p xs).trans part

theorem part_drop (part : xs <+: a.drop i) (p : Nat) : xs.drop p <+: a.drop (i + p) := by
  rw [← List.drop_drop]
  exact part.drop p

def core (p s : Nat) (xs : List α) : List α := (xs.drop p).take ((xs.drop p).length - s)

theorem part_core (part : xs <+: a.drop i) (p s : Nat) : core p s xs <+: a.drop (i + p) :=
  part_take (part_drop part p) _

theorem length_core {s : Nat} (fits : s ≤ (xs.drop p).length) :
    p + (core p s xs).length + s = p + (xs.drop p).length := by
  rw [core, List.length_take]
  omega

theorem length_ending {s : Nat} (fits : s ≤ xs.length) : (xs.drop (xs.length - s)).length = s := by
  rw [List.length_drop, Nat.sub_sub_self fits]

theorem bridges_between [BEq α] [LawfulBEq α] {inner : List Edit} (old : xs <+: a.drop i)
    (new : ys <+: b.drop j) {p s : Nat} (hp : p = commonPrefix xs ys)
    (hs : s = commonSuffix (xs.drop p) (ys.drop p))
    (rest : core p s xs <+: a.drop (i + p) → core p s ys <+: b.drop (j + p) →
      Bridges a b (i + p) (j + p) (i + p + (core p s xs).length) (j + p + (core p s ys).length)
        inner) :
    Bridges a b i j (i + xs.length) (j + ys.length) (run .keep i j p ++ inner ++
      run .keep (i + p + (core p s xs).length) (j + p + (core p s ys).length) s) := by
  obtain ⟨leftTop, rightTop, top⟩ := commonPrefix_spec xs ys
  obtain ⟨leftEnd, rightEnd, bottom⟩ := commonSuffix_spec (xs.drop p) (ys.drop p)
  rw [← hp] at leftTop rightTop top
  rw [← hs] at leftEnd rightEnd bottom
  have kept : Agree a b i j p := by
    have equal := agree_of_parts (part_take old p) (top ▸ part_take new p)
    rwa [List.length_take, Nat.min_eq_left leftTop] at equal
  have keptEnd : Agree a b (i + p + (core p s xs).length) (j + p + (core p s ys).length) s := by
    have equal := agree_of_parts (part_drop (part_drop old p) ((xs.drop p).length - s))
      (bottom ▸ part_drop (part_drop new p) ((ys.drop p).length - s))
    rw [length_ending leftEnd] at equal
    rwa [core, core, List.length_take, List.length_take, Nat.min_eq_left (Nat.sub_le _ _),
      Nat.min_eq_left (Nat.sub_le _ _)]
  have between := rest (part_core old p s) (part_core new p s)
  have whole := ((bridges_keep kept).append between).append (bridges_keep keptEnd)
  have oldEnd := length_core leftEnd
  have newEnd := length_core rightEnd
  rw [List.length_drop] at oldEnd newEnd
  have oldWhole : i + p + (core p s xs).length + s = i + xs.length := by omega
  have newWhole : j + p + (core p s ys).length + s = j + ys.length := by omega
  rwa [oldWhole, newWhole] at whole

theorem bridges_split {es fs : List Edit} {x y : Nat} (left : x ≤ xs.length) (right : y ≤ ys.length)
    (above : Bridges a b i j (i + (xs.take x).length) (j + (ys.take y).length) es)
    (below : Bridges a b (i + x) (j + y) (i + x + (xs.drop x).length) (j + y + (ys.drop y).length)
      fs) :
    Bridges a b i j (i + xs.length) (j + ys.length) (es ++ fs) := by
  rw [List.length_take_of_le left, List.length_take_of_le right] at above
  rw [List.length_drop, List.length_drop, Nat.add_assoc, Nat.add_assoc, Nat.add_sub_cancel' left,
    Nat.add_sub_cancel' right] at below
  exact above.append below

theorem bridges_script [BEq α] [LawfulBEq α] (depth : Nat) (old : xs <+: a.drop i)
    (new : ys <+: b.drop j) :
    Bridges a b i j (i + xs.length) (j + ys.length) (script depth xs ys i j) := by
  induction depth generalizing xs ys i j with
  | zero =>
    rw [script]
    refine bridges_between old new rfl rfl fun _ _ => ?_
    split
    · next none => exact bridges_one_sided none
    · exact bridges_replace a b _ _ _ _
  | succ depth ih =>
    rw [script]
    refine bridges_between old new rfl rfl fun oldCore newCore => ?_
    split
    · next none => exact bridges_one_sided none
    · split
      · exact bridges_replace a b _ _ _ _
      · next x y met =>
        obtain ⟨left, right⟩ := le_of_middle met
        have above := ih (part_take oldCore x) (part_take newCore y)
        have below := ih (part_drop oldCore x) (part_drop newCore y)
        exact bridges_split left right above below

theorem bridges_shortest [BEq α] [LawfulBEq α] (a b : List α) :
    Bridges a b 0 0 a.length b.length (shortest a b) := by
  have whole := bridges_script (a.length + b.length) (List.prefix_refl (a.drop 0))
    (List.prefix_refl (b.drop 0))
  simpa [shortest] using whole

end ScriptDesk.Diff
