import Mathlib.Data.List.Chain
import ScriptDesk.Diff.Hunk
import ScriptDesk.Proofs.Recorded

namespace ScriptDesk.Diff

variable {α : Type} {a b : List α} {es : List Edit} {rs ss : List Region} {r : Region} {i j : Nat}

/-- The places that a region takes lines from are where those above it end. -/
def Region.Sits (a b : List α) (i j : Nat) (r : Region) : Prop :=
  0 < r.oldLen + r.newLen ∧
    match r.same with
    | true => r.newLen = r.oldLen ∧ r.old = i ∧ r.new = j ∧ Agree a b i j r.oldLen
    | false => (0 < r.oldLen → r.old = i) ∧ (0 < r.newLen → r.new = j)

abbrev Laid (a b : List α) : Nat → Nat → List Region → Prop :=
  Along Region.oldLen Region.newLen (Region.Sits a b)

theorem Region.Sits.of_same (h : r.Sits a b i j) (same : r.same = true) :
    r.newLen = r.oldLen ∧ r.old = i ∧ r.new = j ∧ Agree a b i j r.oldLen := by
  simpa only [same] using h.2

theorem Region.Sits.of_change (h : r.Sits a b i j) (change : r.same = false) :
    (0 < r.oldLen → r.old = i) ∧ (0 < r.newLen → r.new = j) := by
  simpa only [change] using h.2

theorem Region.Sits.old_eq (h : r.Sits a b i j) (some : 0 < r.oldLen) : r.old = i := by
  cases same : r.same with
  | true => exact (h.of_same same).2.1
  | false => exact (h.of_change same).1 some

theorem Region.Sits.new_eq (h : r.Sits a b i j) (some : 0 < r.newLen) : r.new = j := by
  cases same : r.same with
  | true => exact (h.of_same same).2.2.1
  | false => exact (h.of_change same).2 some

theorem Region.Sits.oldLen_pos (h : r.Sits a b i j) (same : r.same = true) : 0 < r.oldLen := by
  obtain ⟨len, -⟩ := h.of_same same
  have given := h.1
  omega

theorem Region.Sits.same_eq_false (h : r.Sits a b i j) (none : r.oldLen = 0 ∨ r.newLen = 0) :
    r.same = false := by
  rw [← Bool.not_eq_true]
  intro same
  obtain ⟨len, -⟩ := h.of_same same
  have some := h.oldLen_pos same
  omega

def oldSpan (rs : List Region) : Nat := (rs.map (·.oldLen)).sum

def newSpan (rs : List Region) : Nat := (rs.map (·.newLen)).sum

@[simp] theorem oldSpan_nil : oldSpan [] = 0 := rfl

@[simp] theorem newSpan_nil : newSpan [] = 0 := rfl

@[simp] theorem oldSpan_cons (r : Region) (rs : List Region) :
    oldSpan (r :: rs) = r.oldLen + oldSpan rs := by
  simp [oldSpan]

@[simp] theorem newSpan_cons (r : Region) (rs : List Region) :
    newSpan (r :: rs) = r.newLen + newSpan rs := by
  simp [newSpan]

@[simp] theorem oldSpan_append (rs ss : List Region) :
    oldSpan (rs ++ ss) = oldSpan rs + oldSpan ss := by
  simp [oldSpan]

@[simp] theorem newSpan_append (rs ss : List Region) :
    newSpan (rs ++ ss) = newSpan rs + newSpan ss := by
  simp [newSpan]

theorem laid_append : Laid a b i j (rs ++ ss) ↔
    Laid a b i j rs ∧ Laid a b (i + oldSpan rs) (j + newSpan rs) ss := along_append

def pendingLen : Option Edit → Nat
  | none => 0
  | some e => e.len

/-- What has been collected since the last region: kept lines, or a change. -/
inductive Pending (a b : List α) (i j : Nat) :
    Option Edit → Option Edit → Option Edit → Nat → Nat → Prop
  | kept {k : Edit} (given : 0 < k.len) (old : k.old = i) (new : k.new = j)
      (agree : Agree a b i j k.len) :
      Pending a b i j (some k) none none (i + k.len) (j + k.len)
  | changed {d e : Option Edit} (deleted : ∀ x ∈ d, 0 < x.len ∧ x.old = i)
      (inserted : ∀ x ∈ e, 0 < x.len ∧ x.new = j) :
      Pending a b i j none d e (i + pendingLen d) (j + pendingLen e)

structure Covers (a b : List α) (i j i' j' : Nat) (rs : List Region) : Prop where
  laid : Laid a b i j rs
  oldEnd : i + oldSpan rs = i'
  newEnd : j + newSpan rs = j'

theorem Covers.append {i' j' i'' j'' : Nat} (above : Covers a b i j i' j' rs)
    (below : Covers a b i' j' i'' j'' ss) : Covers a b i j i'' j'' (rs ++ ss) where
  laid := by
    refine laid_append.2 ⟨above.laid, ?_⟩
    have rest := below.laid
    rwa [← above.oldEnd, ← above.newEnd] at rest
  oldEnd := by rw [oldSpan_append, ← Nat.add_assoc, above.oldEnd, below.oldEnd]
  newEnd := by rw [newSpan_append, ← Nat.add_assoc, above.newEnd, below.newEnd]

theorem covers_kept {k : Edit} (given : 0 < k.len) (old : k.old = i) (new : k.new = j)
    (agree : Agree a b i j k.len) :
    Covers a b i j (i + k.len) (j + k.len) (keptRegion (some k)) :=
  ⟨⟨⟨Nat.add_pos_left given _, rfl, old, new, agree⟩, trivial⟩, rfl, rfl⟩

theorem covers_changed {d e : Option Edit} (deleted : ∀ x ∈ d, 0 < x.len ∧ x.old = i)
    (inserted : ∀ x ∈ e, 0 < x.len ∧ x.new = j) :
    Covers a b i j (i + pendingLen d) (j + pendingLen e) (changedRegion d e) := by
  cases d with
  | none =>
    cases e with
    | none => exact ⟨trivial, rfl, rfl⟩
    | some e =>
      obtain ⟨given, new⟩ := inserted e rfl
      exact ⟨⟨⟨Nat.add_pos_right _ given, nofun, fun _ => new⟩, trivial⟩, rfl, rfl⟩
  | some d =>
    obtain ⟨given, old⟩ := deleted d rfl
    cases e with
    | none => exact ⟨⟨⟨Nat.add_pos_left given _, fun _ => old, nofun⟩, trivial⟩, rfl, rfl⟩
    | some e =>
      obtain ⟨-, new⟩ := inserted e rfl
      exact ⟨⟨⟨Nat.add_pos_left given _, fun _ => old, fun _ => new⟩, trivial⟩, rfl, rfl⟩

theorem pendingLen_grow (e : Edit) (d : Option Edit) :
    pendingLen (some (e.grow d)) = pendingLen d + e.len := by
  cases d with
  | none => exact (Nat.zero_add _).symm
  | some d => rfl

theorem grow_spec {place : Edit → Nat} (keeps : ∀ x n, place { x with len := n } = place x)
    {d : Option Edit} {e : Edit} {i : Nat} (given : 0 < e.len) (here : place e = i + pendingLen d)
    (pending : ∀ x ∈ d, 0 < x.len ∧ place x = i) :
    ∀ x ∈ some (e.grow d), 0 < x.len ∧ place x = i := by
  rintro _ ⟨⟩
  cases d with
  | none => exact ⟨given, here⟩
  | some d =>
    obtain ⟨some, old⟩ := pending d rfl
    exact ⟨Nat.add_pos_left some _, (keeps _ _).trans old⟩

theorem covers_regionsFrom {kept deleted inserted : Option Edit} {i' j' : Nat}
    (pending : Pending a b i j kept deleted inserted i' j') (aligned : Aligned a b i' j' es) :
    Covers a b i j (i' + oldSize es) (j' + newSize es) (regionsFrom kept deleted inserted es) := by
  induction es generalizing i j kept deleted inserted i' j' with
  | nil =>
    cases pending with
    | kept given old new agree =>
      rw [regionsFrom, changedRegion, List.append_nil]
      exact covers_kept given old new agree
    | changed deleted inserted => exact covers_changed deleted inserted
  | cons e es ih =>
    obtain ⟨⟨given, sits⟩, rest⟩ := aligned
    rw [oldSize_cons, newSize_cons, ← Nat.add_assoc, ← Nat.add_assoc, regionsFrom]
    rw [Edit.oldLen, Edit.newLen] at rest ⊢
    cases kind : e.kind with
    | keep =>
      simp only [kind] at sits rest ⊢
      obtain ⟨old, new, agree⟩ := sits
      cases pending with
      | @kept k given' old' new' agree' =>
        refine ih ?_ rest
        rw [Nat.add_assoc, Nat.add_assoc]
        exact .kept (k := { k with len := k.len + e.len }) (Nat.add_pos_left given' _) old' new'
          (agree_add.2 ⟨agree', agree⟩)
      | changed deleted inserted =>
        exact (covers_changed deleted inserted).append (ih (.kept given old new agree) rest)
    | delete =>
      simp only [kind] at sits rest ⊢
      cases pending with
      | kept given' old' new' agree' =>
        refine (covers_kept given' old' new' agree').append (ih ?_ rest)
        exact .changed (d := some e) (e := none) (by simp [given, sits]) (by simp)
      | @changed d _ deleted inserted =>
        refine ih ?_ rest
        rw [Nat.add_assoc, ← pendingLen_grow]
        exact .changed (grow_spec (fun _ _ => rfl) given sits deleted) inserted
    | insert =>
      simp only [kind] at sits rest ⊢
      cases pending with
      | kept given' old' new' agree' =>
        refine (covers_kept given' old' new' agree').append (ih ?_ rest)
        exact .changed (d := none) (e := some e) (by simp) (by simp [given, sits])
      | @changed _ d deleted inserted =>
        refine ih ?_ rest
        rw [Nat.add_assoc j, ← pendingLen_grow]
        exact .changed deleted (grow_spec (fun _ _ => rfl) given sits inserted)

def Apart (rs : List Region) : Prop := (rs.map (·.same)).IsChain fun p q => p = true ∨ q = true

theorem apart_cons_same (same : r.same = true) (h : Apart rs) : Apart (r :: rs) :=
  List.isChain_cons.2 ⟨fun _ _ => .inl same, h⟩

theorem apart_changed (d e : Option Edit) (next : ∀ r ∈ rs.head?, r.same = true) (h : Apart rs) :
    Apart (changedRegion d e ++ rs) := by
  have neighbour : ∀ p ∈ (rs.map (·.same)).head?, p = true := by
    simpa using next
  cases d with
  | none =>
    cases e with
    | none => exact h
    | some e => exact List.isChain_cons.2 ⟨fun p mem => .inr (neighbour p mem), h⟩
  | some d =>
    cases e with
    | none => exact List.isChain_cons.2 ⟨fun p mem => .inr (neighbour p mem), h⟩
    | some e => exact List.isChain_cons.2 ⟨fun p mem => .inr (neighbour p mem), h⟩

theorem apart_regionsFrom (es : List Edit) :
    (∀ k, Apart (regionsFrom (some k) none none es) ∧
      ∀ r ∈ (regionsFrom (some k) none none es).head?, r.same = true) ∧
    ∀ d e, Apart (regionsFrom none d e es) := by
  induction es with
  | nil =>
    refine ⟨fun k => ⟨.singleton _, by simp [regionsFrom, keptRegion]⟩, fun d e => ?_⟩
    have alone : Apart (changedRegion d e ++ []) := apart_changed d e nofun .nil
    rwa [List.append_nil] at alone
  | cons x es ih =>
    obtain ⟨kept, changed⟩ := ih
    refine ⟨fun k => ?_, fun d e => ?_⟩
    · rw [regionsFrom]
      cases x.kind with
      | keep => exact kept _
      | delete => exact ⟨apart_cons_same rfl (changed _ _), by simp [keptRegion]⟩
      | insert => exact ⟨apart_cons_same rfl (changed _ _), by simp [keptRegion]⟩
    · rw [regionsFrom]
      cases x.kind with
      | keep => exact apart_changed d e (kept _).2 (kept _).1
      | delete => exact changed _ _
      | insert => exact changed _ _

theorem oldLen_of_changed {d : Edit} (given : 0 < d.len) (e : Option Edit) (rs : List Region) :
    ∀ r ∈ (changedRegion (some d) e ++ rs).head?, 0 < r.oldLen := by
  cases e <;> simpa [changedRegion] using given

theorem oldLen_of_deletion {d : Edit} (given : 0 < d.len) (e : Option Edit) (es : List Edit) :
    ∀ r ∈ (regionsFrom none (some d) e es).head?, 0 < r.oldLen := by
  induction es generalizing d e with
  | nil =>
    have alone := oldLen_of_changed given e []
    rwa [List.append_nil] at alone
  | cons x es ih =>
    rw [regionsFrom]
    cases x.kind with
    | keep => exact oldLen_of_changed given e _
    | delete => exact ih (Nat.add_pos_left given _) e
    | insert => exact ih given _

theorem old_of_insertions {e : Edit} (given : ∀ x ∈ es, 0 < x.len)
    (recorded : e.old = i ∨ DeletesNext es) :
    ∀ r ∈ (regionsFrom none none (some e) es).head?, r.old = i ∨ 0 < r.oldLen := by
  induction es generalizing e with
  | nil => simpa [regionsFrom, keptRegion, changedRegion, DeletesNext] using recorded
  | cons x es ih =>
    obtain ⟨first, rest⟩ := List.forall_mem_cons.1 given
    rw [DeletesNext] at recorded
    rw [regionsFrom]
    cases kind : x.kind with
    | keep => simpa [changedRegion, kind] using recorded
    | delete => exact fun r mem => .inr (oldLen_of_deletion first _ es r mem)
    | insert =>
      rw [kind] at recorded
      exact ih rest recorded

theorem Fits.covers (h : Fits a b es) : Covers a b 0 0 a.length b.length (regions es) := by
  have start : Pending a b 0 0 none none none 0 0 := .changed (d := none) (e := none) nofun nofun
  have whole := covers_regionsFrom start h.aligned
  rwa [h.old, h.new, Nat.zero_add, Nat.zero_add] at whole

theorem old_of_first (h : Kept a b es) : ∀ r ∈ (regions es).head?, r.old = 0 := by
  intro r mem
  have sits : r.Sits a b 0 0 := h.fits.covers.laid.head r mem
  have either : r.old = 0 ∨ 0 < r.oldLen := by
    have given : ∀ x ∈ es, 0 < x.len := h.fits.aligned.forall_mem fun _ _ _ sits => sits.1
    have recorded := h.recorded
    cases es with
    | nil => cases mem
    | cons e es =>
      obtain ⟨first, rest⟩ := List.forall_mem_cons.1 given
      rw [regions, regionsFrom] at mem
      rw [Recorded] at recorded
      cases kind : e.kind with
      | keep =>
        rw [kind] at mem
        exact .inr (sits.oldLen_pos (((apart_regionsFrom es).1 e).2 r mem))
      | delete =>
        rw [kind] at mem
        exact .inr (oldLen_of_deletion first none es r mem)
      | insert =>
        rw [kind] at mem recorded
        exact old_of_insertions rest recorded.1 r mem
  exact either.elim id sits.old_eq

structure Divides (a b : List α) (rs : List Region) : Prop where
  covers : Covers a b 0 0 a.length b.length rs
  apart : Apart rs
  first : ∀ r ∈ rs.head?, r.old = 0

theorem Kept.divides (h : Kept a b es) : Divides a b (regions es) where
  covers := h.fits.covers
  apart := (apart_regionsFrom es).2 none none
  first := old_of_first h

end ScriptDesk.Diff
