import ScriptDesk.Diff.Shortest

/-! The search for a point on a shortest path stays inside.  Where it has left on one side by some
lines, it has reached that side on a diagonal as far away; so as long as the two searches have not
met, no trace that is looked at has reached a side, and the point where they meet lies inside. -/

namespace ScriptDesk.Diff

variable {n m : Nat} {frontier : List Nat}

theorem between_spec {right : Nat} {xs : List Nat} {i s : Nat}
    (h : (starts.between right xs)[i]? = some s) :
    ((right :: xs)[i]? = some s ∨ ∃ x, xs[i]? = some x ∧ s = x + 1) ∧
      (∀ x, (right :: xs)[i]? = some x → x ≤ s) ∧ ∀ x, xs[i]? = some x → x + 1 ≤ s := by
  induction xs generalizing right i with
  | nil =>
    cases i with
    | zero =>
      cases h
      simp
    | succ i => cases h
  | cons left xs ih =>
    cases i with
    | zero =>
      cases h
      split
      · next less => simpa using Nat.succ_le_of_lt less
      · next more => simpa using Nat.le_succ_of_le (Nat.le_of_not_lt more)
    | succ i => exact ih h

theorem length_between (right : Nat) (xs : List Nat) :
    (starts.between right xs).length = xs.length + 1 := by
  induction xs generalizing right with
  | nil => rfl
  | cons left xs ih => simp [starts.between, ih]

theorem length_starts (frontier : List Nat) : (starts frontier).length = frontier.length + 1 := by
  cases frontier with
  | nil => rfl
  | cons x xs => simp [starts, length_between]

/-- A start is one line along from the trace of its index, or one down from that before. -/
inductive Departs (frontier : List Nat) : Nat → Nat → Prop
  | first (none : frontier = []) : Departs frontier 0 0
  | along {i x : Nat} (left : frontier[i]? = some x) : Departs frontier i (x + 1)
  | down {i x : Nat} (right : frontier[i]? = some x) : Departs frontier (i + 1) x

theorem departs_of_starts {i s : Nat} (h : (starts frontier)[i]? = some s) :
    Departs frontier i s := by
  cases frontier with
  | nil =>
    cases i with
    | zero =>
      cases h
      exact .first rfl
    | succ i => cases h
  | cons x xs =>
    cases i with
    | zero =>
      cases h
      exact .along rfl
    | succ i =>
      obtain ⟨right | ⟨left, here, rfl⟩, -, -⟩ := between_spec h
      · exact .down right
      · exact .along here

theorem le_of_starts {i s : Nat} (h : (starts frontier)[i]? = some s) :
    (∀ x, frontier[i]? = some x → x + 1 ≤ s) ∧
      ∀ k x, i = k + 1 → frontier[k]? = some x → x ≤ s := by
  cases frontier with
  | nil => exact ⟨nofun, nofun⟩
  | cons x xs =>
    cases i with
    | zero =>
      cases h
      simp
    | succ i =>
      obtain ⟨-, right, left⟩ := between_spec h
      refine ⟨left, ?_⟩
      rintro k y ⟨rfl⟩ here
      exact right y here

def Within (n m : Nat) (slide : Nat → Int → Nat) : Prop :=
  ∀ x y, slide x y = 0 ∨ x + slide x y ≤ n ∧ y + slide x y ≤ m

def widened (slide : Nat → Int → Nat) (frontier : List Nat) : List Nat :=
  (traces slide frontier.length frontier).map (·.stop)

theorem length_widened (slide : Nat → Int → Nat) (frontier : List Nat) :
    (widened slide frontier).length = frontier.length + 1 := by
  simp [widened, traces, length_starts]

theorem getElem?_widened (slide : Nat → Int → Nat) (frontier : List Nat) (i : Nat) :
    (widened slide frontier)[i]? = (starts frontier)[i]?.map fun x =>
      x + slide x (x - (frontier.length - 2 * i)) := by
  rw [widened, traces, List.getElem?_map, List.getElem?_mapIdx, Option.map_map]
  rfl

theorem start_of_widened {slide : Nat → Int → Nat} (within : Within n m slide) {i x : Nat}
    (h : (widened slide frontier)[i]? = some x) :
    ∃ s, (starts frontier)[i]? = some s ∧ s ≤ x ∧
      (x = s ∨ x ≤ n ∧ x + 2 * i ≤ m + frontier.length) := by
  rw [getElem?_widened, Option.map_eq_some_iff] at h
  obtain ⟨s, start, rfl⟩ := h
  refine ⟨s, start, Nat.le_add_right _ _, ?_⟩
  obtain none | ⟨right, below⟩ := within s (s - (frontier.length - 2 * i))
  · exact .inl (by rw [none, Nat.add_zero])
  · exact .inr ⟨right, by omega⟩

theorem widened_of_start (slide : Nat → Int → Nat) {i s : Nat}
    (h : (starts frontier)[i]? = some s) : ∃ x, (widened slide frontier)[i]? = some x ∧ s ≤ x := by
  rw [getElem?_widened, h]
  exact ⟨_, rfl, Nat.le_add_right _ _⟩

/-- A search that has left by some lines is at that side as many diagonals away. -/
structure Frontier (n m : Nat) (frontier : List Nat) : Prop where
  above : ∀ {i x}, frontier[i]? = some x → frontier.length ≤ x + 2 * i + 1
  right : ∀ {i x e}, frontier[i]? = some x → n + e ≤ x →
    ∃ z, frontier[i + e]? = some z ∧ n ≤ z
  below : ∀ {i x e}, frontier[i]? = some x → m + e + frontier.length ≤ x + 2 * i + 1 →
    ∃ j z, i = j + e ∧ frontier[j]? = some z ∧ m + frontier.length ≤ z + 2 * j + 1

theorem Frontier.nil : Frontier n m [] where
  above := nofun
  right := nofun
  below := nofun

theorem widened_of_along {slide : Nat → Int → Nat} {i x : Nat} (h : frontier[i]? = some x) :
    ∃ z, (widened slide frontier)[i]? = some z ∧ x + 1 ≤ z := by
  have inside : i < (starts frontier).length := by
    rw [length_starts]
    exact Nat.lt_succ_of_lt (List.getElem?_eq_some_iff.1 h).1
  have here := List.getElem?_eq_getElem inside
  obtain ⟨z, there, start⟩ := widened_of_start slide here
  exact ⟨z, there, Nat.le_trans ((le_of_starts here).1 x h) start⟩

theorem widened_of_down {slide : Nat → Int → Nat} {i x : Nat} (h : frontier[i]? = some x) :
    ∃ z, (widened slide frontier)[i + 1]? = some z ∧ x ≤ z := by
  have inside : i + 1 < (starts frontier).length := by
    rw [length_starts]
    exact Nat.succ_lt_succ (List.getElem?_eq_some_iff.1 h).1
  have here := List.getElem?_eq_getElem inside
  obtain ⟨z, there, start⟩ := widened_of_start slide here
  exact ⟨z, there, Nat.le_trans ((le_of_starts here).2 i x rfl h) start⟩

theorem Frontier.widened {slide : Nat → Int → Nat} (within : Within n m slide)
    (f : Frontier n m frontier) : Frontier n m (widened slide frontier) where
  above {i x} h := by
    rw [length_widened]
    obtain ⟨s, start, le, -⟩ := start_of_widened within h
    cases departs_of_starts start with
    | first none => simp [none]
    | along left =>
      have := f.above left
      omega
    | down right =>
      have := f.above right
      omega
  right {i x e} h out := by
    obtain ⟨s, start, le, stays | ⟨inside, -⟩⟩ := start_of_widened within h
    · cases e with
      | zero => exact ⟨x, h, out⟩
      | succ e =>
        cases departs_of_starts start with
        | first none => omega
        | along left =>
          obtain ⟨z, there, side⟩ := f.right left (show n + e ≤ _ by omega)
          obtain ⟨z', next, further⟩ := widened_of_down there
          exact ⟨z', next, Nat.le_trans side further⟩
        | @down k _ right =>
          obtain ⟨z, there, side⟩ := f.right right (show n + (e + 1) ≤ _ by omega)
          obtain ⟨z', next, further⟩ := widened_of_down there
          rw [Nat.add_right_comm] at next
          exact ⟨z', next, Nat.le_trans side further⟩
    · obtain rfl : e = 0 := by omega
      exact ⟨x, h, out⟩
  below {i x e} h out := by
    rw [length_widened] at out ⊢
    obtain ⟨s, start, le, stays | ⟨-, inside⟩⟩ := start_of_widened within h
    · cases e with
      | zero => exact ⟨i, x, rfl, h, out⟩
      | succ e =>
        cases departs_of_starts start with
        | first none =>
          rw [none, List.length_nil] at out
          omega
        | along left =>
          obtain ⟨j, z, rfl, there, side⟩ := f.below left (show m + (e + 1) + _ ≤ _ by omega)
          obtain ⟨z', next, further⟩ := widened_of_along there
          exact ⟨j, z', rfl, next, by omega⟩
        | @down k _ right =>
          obtain ⟨j, z, rfl, there, side⟩ := f.below right (show m + e + _ ≤ _ by omega)
          obtain ⟨z', next, further⟩ := widened_of_along there
          exact ⟨j, z', rfl, next, by omega⟩
    · obtain rfl : e = 0 := by omega
      exact ⟨i, x, rfl, h, by omega⟩

/-- On every diagonal that the other search has reached as well, a search that has not met it is
inside. -/
def Inside (n m : Nat) (frontier : List Nat) : Prop :=
  ∀ i x, frontier[i]? = some x → m + 1 ≤ 2 * i + n → 2 * i + n + 3 ≤ 2 * frontier.length + m →
    x < n ∧ x + 2 * i + 1 < m + frontier.length

theorem Inside.nil : Inside n m [] := nofun

theorem start_inside (odd : (n + m) % 2 = 1) (f : Frontier n m frontier)
    (inside : Inside n m frontier) {i s : Nat} (start : (starts frontier)[i]? = some s)
    (low : m + 1 ≤ 2 * i + n) (high : 2 * i + n + 1 ≤ 2 * frontier.length + m) :
    s ≤ n ∧ s + 2 * i ≤ m + frontier.length := by
  -- beyond a side the start would come from a trace that had left there, and then one nearer the
  -- middle had reached that side, where none has
  cases departs_of_starts start with
  | first none =>
    rw [none, List.length_nil] at high ⊢
    omega
  | @along _ x left =>
    have index := (List.getElem?_eq_some_iff.1 left).1
    by_cases top : 2 * i + n + 3 ≤ 2 * frontier.length + m
    · have := inside i x left low top
      omega
    · refine ⟨Nat.le_of_not_lt fun out => ?_, Nat.le_of_not_lt fun out => ?_⟩
      · obtain ⟨j, z, rfl, -, -⟩ := f.below left (show m + frontier.length + _ ≤ _ by omega)
        omega
      · obtain ⟨j, z, rfl, nearer, side⟩ := f.below left (show m + 1 + _ ≤ _ by omega)
        have := inside j z nearer (by omega) (by omega)
        omega
  | @down k _ right =>
    by_cases bottom : m + 1 ≤ 2 * k + n
    · have := inside k s right bottom (by omega)
      omega
    · refine ⟨Nat.le_of_not_lt fun out => ?_, Nat.le_of_not_lt fun out => ?_⟩
      · obtain ⟨z, nearer, side⟩ := f.right right (show n + 1 ≤ _ by omega)
        have index := (List.getElem?_eq_some_iff.1 nearer).1
        have := inside (k + 1) z nearer low (by omega)
        omega
      · obtain ⟨z, nearer, -⟩ := f.right right (show n + frontier.length ≤ _ by omega)
        have index := (List.getElem?_eq_some_iff.1 nearer).1
        omega

theorem reached_of_near {behind : List Nat} (f : Frontier n m behind) {k : Int}
    (near : k.natAbs ≤ (behind.length - 1 : Int)) (parity : (behind.length - 1 - k) % 2 = 0) :
    ∃ x, reached (behind.length - 1) behind.toArray k = some x ∧ k ≤ x := by
  have index : ((behind.length - 1 - k) / 2).toNat < behind.length := by omega
  refine ⟨behind[((behind.length - 1 - k) / 2).toNat], ?_, ?_⟩
  · rw [reached, if_pos near, List.getElem?_toArray, List.getElem?_eq_getElem index]
  · have above := f.above (List.getElem?_eq_getElem index)
    omega

theorem near_of_meets {width : Int} {behind : Array Nat} {t : Trace}
    (h : meets n m width behind t = true) : ((n : Int) - m - t.diagonal).natAbs ≤ width := by
  rw [meets, reached] at h
  split at h
  · next found =>
    split at found
    · assumption
    · cases found
  · cases h

theorem inside_of_unmet (odd : (n + m) % 2 = 1) {slide : Nat → Int → Nat} {ahead behind : List Nat}
    (same : ahead.length = behind.length) (f : Frontier n m behind)
    (unmet : ∀ t ∈ traces slide ahead.length ahead,
      ¬ meets n m (behind.length - 1) behind.toArray t = true) :
    Inside n m (widened slide ahead) := by
  intro i x there low high
  rw [length_widened] at high ⊢
  rw [widened, List.getElem?_map, Option.map_eq_some_iff] at there
  obtain ⟨t, trace, rfl⟩ := there
  have diagonal : t.diagonal = ahead.length - 2 * i := by
    rw [traces, List.getElem?_mapIdx, Option.map_eq_some_iff] at trace
    obtain ⟨s, -, rfl⟩ := trace
    rfl
  obtain ⟨z, reaches, above⟩ :=
    reached_of_near f (k := n - m - t.diagonal) (by omega) (by omega)
  have apart := unmet t (List.mem_of_getElem? trace)
  rw [meets, reaches] at apart
  simp only [decide_eq_true_eq] at apart
  omega

theorem start_of_met (odd : (n + m) % 2 = 1) {slide : Nat → Int → Nat} {ahead : List Nat}
    {behind : Array Nat} (f : Frontier n m ahead) (inside : Inside n m ahead) {t : Trace}
    (trace : t ∈ traces slide ahead.length ahead)
    (met : meets n m (ahead.length - 1) behind t = true) : t.start ≤ n ∧ t.startNew ≤ m := by
  have near := near_of_meets met
  obtain ⟨i, there⟩ := List.getElem?_of_mem trace
  rw [traces, List.getElem?_mapIdx, Option.map_eq_some_iff] at there
  obtain ⟨s, start, rfl⟩ := there
  dsimp only at near
  have := start_inside odd f inside start (by omega) (by omega)
  dsimp only [Trace.startNew]
  omega

theorem le_of_meeting {slideAhead slideBehind : Nat → Int → Nat}
    (withinAhead : Within n m slideAhead) (withinBehind : Within n m slideBehind)
    {rounds : Nat} {ahead behind : List Nat} {x y : Nat} (same : ahead.length = behind.length)
    (fromStart : Frontier n m ahead) (fromEnd : Frontier n m behind)
    (inside : (n + m) % 2 = 1 → Inside n m ahead)
    (h : meeting slideAhead slideBehind n m rounds ahead.length ahead behind = some (x, y)) :
    x ≤ n ∧ y ≤ m := by
  induction rounds generalizing ahead behind with
  | zero => cases h
  | succ rounds ih =>
    rw [meeting] at h
    dsimp only at h
    split at h
    · next t found =>
      cases h
      have met := List.find?_some found
      simp only [Bool.and_eq_true, beq_iff_eq] at met
      exact start_of_met met.1 fromStart (inside met.1) (List.mem_of_find?_eq_some found) met.2
    · next none =>
      split at h
      · cases h
        exact ⟨Nat.sub_le _ _, Nat.sub_le _ _⟩
      · refine ih ?_ (fromStart.widened withinAhead) (fromEnd.widened withinBehind) ?_ ?_
        · rw [length_widened, length_widened, same]
        · intro odd
          refine inside_of_unmet odd same fromEnd fun t trace met => ?_
          have unmet := List.find?_eq_none.1 none t trace
          rw [same, met, odd] at unmet
          exact unmet rfl
        · rw [length_widened, widened, widened, ← same]
          exact h

theorem equalAhead_within {α : Type} [BEq α] (a b : Array α) (x y : Nat) :
    equalAhead a b x y = 0 ∨
      x + equalAhead a b x y ≤ a.size ∧ y + equalAhead a b x y ≤ b.size := by
  fun_induction equalAhead a b x y with
  | case1 x y here equal ih => omega
  | case2 => exact .inl rfl
  | case3 => exact .inl rfl

theorem slide_within {α : Type} [BEq α] (a b : Array α) : Within a.size b.size (slide a b) := by
  intro x y
  rw [slide]
  split
  · next below =>
    have := equalAhead_within a b x y.toNat
    omega
  · exact .inl rfl

theorem le_of_middle {α : Type} [BEq α] {a b : List α} {x y : Nat} (h : middle a b = some (x, y)) :
    x ≤ a.length ∧ y ≤ b.length := by
  have ahead : Within a.length b.length (slide a.toArray b.toArray) := slide_within _ _
  have behind : Within a.length b.length (slide a.reverse.toArray b.reverse.toArray) := by
    simpa using slide_within a.reverse.toArray b.reverse.toArray
  exact le_of_meeting ahead behind rfl .nil .nil (fun _ => .nil) h

end ScriptDesk.Diff
