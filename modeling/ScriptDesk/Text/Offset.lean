import ScriptDesk.Text.Basic

namespace ScriptDesk.Text

def byteSize : Text → Nat
  | [] => 0
  | c :: t => c.utf8Size + byteSize t

@[simp] theorem byteSize_append (s t : Text) : byteSize (s ++ t) = byteSize s + byteSize t := by
  induction s with
  | nil => simp [byteSize]
  | cons c s ih => simp [byteSize, ih, Nat.add_assoc]

theorem byteSize_pos {t : Text} (h : t ≠ []) : 0 < byteSize t := by
  cases t with
  | nil => exact absurd rfl h
  | cons c t => exact Nat.add_pos_left c.utf8Size_pos _

/-- The two sides of a byte position; none if it lies inside a character or past the end. -/
def splitAtByte : Nat → Text → Option (Text × Text)
  | 0, t => some ([], t)
  | _ + 1, [] => none
  | n + 1, c :: t =>
    if c.utf8Size ≤ n + 1 then
      (splitAtByte (n + 1 - c.utf8Size) t).map fun (a, b) => (c :: a, b)
    else none

theorem splitAtByte_append (s t : Text) : splitAtByte (byteSize s) (s ++ t) = some (s, t) := by
  induction s with
  | nil => simp [byteSize, splitAtByte]
  | cons c s ih =>
    obtain ⟨n, size⟩ : ∃ n, byteSize (c :: s) = n + 1 :=
      ⟨_, (Nat.succ_pred_eq_of_pos (byteSize_pos (List.cons_ne_nil c s))).symm⟩
    have fits : c.utf8Size ≤ n + 1 := by
      rw [← size]
      exact Nat.le_add_right _ _
    have rest : n + 1 - c.utf8Size = byteSize s := by
      rw [← size]
      exact Nat.add_sub_cancel_left _ _
    rw [size, List.cons_append, splitAtByte, if_pos fits, rest, ih]
    rfl

theorem of_splitAtByte {n : Nat} {t before after : Text}
    (h : splitAtByte n t = some (before, after)) : t = before ++ after ∧ byteSize before = n := by
  fun_induction splitAtByte n t generalizing before with
  | case1 t =>
    cases h
    exact ⟨rfl, rfl⟩
  | case2 => cases h
  | case3 n c t fits ih =>
    obtain ⟨⟨b, a⟩, split, joined⟩ := Option.map_eq_some_iff.1 h
    cases joined
    obtain ⟨rfl, size⟩ := ih split
    refine ⟨rfl, ?_⟩
    rw [byteSize, size]
    omega
  | case4 => cases h

def occurrence (search : Text) : Text → Option Nat
  | [] => if search.isEmpty then some 0 else none
  | c :: t =>
    if search.isPrefixOf (c :: t) then some 0 else (occurrence search t).map (c.utf8Size + ·)

inductive Found
  | at : Nat → Found
  | absent : Found
  | offBoundary : Found
  deriving DecidableEq, Repr

/-- The first occurrence of `search` from byte `start` on.  An empty search occurs nowhere, and
nothing occurs at or past the end. -/
def find (t search : Text) (start : Nat) : Found :=
  if search.isEmpty || byteSize t ≤ start then .absent
  else match splitAtByte start t with
    | none => .offBoundary
    | some (_, rest) =>
      match occurrence search rest with
      | none => .absent
      | some n => .at (start + n)

theorem of_find_eq_at {t search : Text} {start n : Nat} (h : find t search start = .at n) :
    search ≠ [] ∧ start < byteSize t ∧ start ≤ n := by
  unfold find at h
  split at h
  · cases h
  · next searches =>
    simp only [Bool.or_eq_true, List.isEmpty_iff, decide_eq_true_eq, not_or, Nat.not_le] at searches
    split at h
    · cases h
    · split at h
      · cases h
      · cases h
        exact ⟨searches.1, searches.2, Nat.le_add_right _ _⟩

def lineStart : Nat → Text → Option Nat
  | 0, _ => none
  | 1, _ => some 0
  | _ + 2, [] => none
  | n + 2, c :: t =>
    (lineStart (if c = '\n' then n + 1 else n + 2) t).map (c.utf8Size + ·)

end ScriptDesk.Text
