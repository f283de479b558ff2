import Mathlib.Logic.Relation
import ScriptDesk.Diff.Compact
import ScriptDesk.Proofs.Script

/-! Compaction keeps a script in line.  An edit moves by steps: it slides over a kept line, joins an
edit of its kind or changes places with one of the other.  After each step every edit stands where
it reads its lines from, though not always at the other place it has recorded. -/

namespace ScriptDesk.Diff

variable {α : Type} {a b : List α} {f g : Focus} {i j : Nat}

/-- The place an edit reads its lines from is where the edits above it end; kept lines are equal. -/
def Edit.Sits (a b : List α) (i j : Nat) (e : Edit) : Prop :=
  0 < e.len ∧ match e.kind with
    | .keep => e.old = i ∧ e.new = j ∧ Agree a b i j e.len
    | .delete => e.old = i
    | .insert => e.new = j

abbrev Aligned (a b : List α) : Nat → Nat → List Edit → Prop :=
  Along Edit.oldLen Edit.newLen (Edit.Sits a b)

structure Fits (a b : List α) (es : List Edit) : Prop where
  aligned : Aligned a b 0 0 es
  old : oldSize es = a.length
  new : newSize es = b.length

theorem aligned_append {es fs : List Edit} : Aligned a b i j (es ++ fs) ↔
    Aligned a b i j es ∧ Aligned a b (i + oldSize es) (j + newSize es) fs := along_append

theorem Aligned.at {es : List Edit} {i' j' : Nat} (h : Aligned a b i j es) (old : i = i')
    (new : j = j') : Aligned a b i' j' es := by
  rwa [← old, ← new]

theorem Edit.Exact.sits {e : Edit} (h : e.Exact a b i j) : e.Sits a b i j := by
  obtain ⟨some, old, new, kept⟩ := h
  refine ⟨some, ?_⟩
  split
  · next keep => exact ⟨old, new, kept keep⟩
  · exact old
  · exact new

theorem Bridges.fits {es : List Edit} (h : Bridges a b 0 0 a.length b.length es) :
    Fits a b es where
  aligned := h.exact.mono fun _ _ _ => Edit.Exact.sits
  old := by rw [← h.oldEnd, Nat.zero_add]
  new := by rw [← h.newEnd, Nat.zero_add]

structure Replaces (a b : List α) (es fs : List Edit) : Prop where
  aligned : ∀ {i j}, Aligned a b i j es → Aligned a b i j fs
  old : oldSize fs = oldSize es
  new : newSize fs = newSize es

theorem Fits.replace {above es fs : List Edit} (h : Fits a b (above ++ es))
    (others : Replaces a b es fs) : Fits a b (above ++ fs) where
  aligned := by
    obtain ⟨top, rest⟩ := aligned_append.1 h.aligned
    exact aligned_append.2 ⟨top, others.aligned rest⟩
  old := by rw [oldSize_append, others.old, ← oldSize_append, h.old]
  new := by rw [newSize_append, others.new, ← newSize_append, h.new]

inductive Up [BEq α] (a b : List α) : Focus → Focus → Prop
  | drop {before after : List Edit} {q e : Edit} (kept : q.kind = .keep) (none : q.len = 0) :
      Up a b ⟨q :: before, e, after⟩ ⟨before, e, after⟩
  | slide {before after : List Edit} {old new len : Nat} {e : Edit} (inserts : e.kind = .insert)
      (equal : sameLine a b (old + len) (e.new + e.len - 1) = true) :
      Up a b ⟨⟨.keep, old, new, len + 1⟩ :: before, e, after⟩
        ⟨run .keep old new len ++ before, { e with old := e.old - 1, new := e.new - 1 },
          keepBefore (old + len) (e.new + e.len - 1) after⟩
  | join {before after : List Edit} {q e : Edit} (change : q.kind ≠ .keep)
      (same : q.kind = e.kind) :
      Up a b ⟨q :: before, e, after⟩ ⟨before, { q with len := q.len + e.len }, after⟩
  | swap {before after : List Edit} {q e : Edit} (change : q.kind ≠ .keep)
      (other : q.kind ≠ e.kind) : Up a b ⟨q :: before, e, after⟩ ⟨before, e, q :: after⟩

inductive Down [BEq α] (a b : List α) : Focus → Focus → Prop
  | drop {before after : List Edit} {q e : Edit} (kept : q.kind = .keep) (none : q.len = 0) :
      Down a b ⟨before, e, q :: after⟩ ⟨before, e, after⟩
  | slide {before after : List Edit} {old new len : Nat} {e : Edit} (inserts : e.kind = .insert)
      (equal : sameLine a b old e.new = true) :
      Down a b ⟨before, e, ⟨.keep, old, new, len + 1⟩ :: after⟩
        ⟨keepAfter old e.new before, { e with old := e.old + 1, new := e.new + 1 },
          run .keep (old + 1) (new + 1) len ++ after⟩
  | join {before after : List Edit} {q e : Edit} (change : q.kind ≠ .keep)
      (same : q.kind = e.kind) :
      Down a b ⟨before, e, q :: after⟩ ⟨before, { e with len := e.len + q.len }, after⟩
  | swap {before after : List Edit} {q e : Edit} (change : q.kind ≠ .keep)
      (other : q.kind ≠ e.kind) : Down a b ⟨before, e, q :: after⟩ ⟨q :: before, e, after⟩

open Relation (ReflTransGen)

section Moves

variable [BEq α] {before before' after after' : List Edit} {e e' q : Edit} {old len left : Nat}

theorem run_of_pos (kind : Kind) (old new : Nat) (some : len ≠ 0) :
    run kind old new len = [⟨kind, old, new, len⟩] := by
  rw [run, if_neg some]

theorem run_of_keep (kept : q.kind = .keep) (some : q.len ≠ 0) :
    run .keep q.old q.new q.len = [q] := by
  rw [run_of_pos _ _ _ some, ← kept]

theorem slides_up (before : List Edit) (new : Nat)
    (slid : slideOverUp a b old len e after = (left, e', after')) :
    ReflTransGen (Up a b) ⟨run .keep old new len ++ before, e, after⟩
      ⟨run .keep old new left ++ before, e', after'⟩ := by
  fun_induction slideOverUp a b old len e after with
  | case1 =>
    cases slid
    exact .refl
  | case2 len e after here ih => exact .head (.slide here.1 here.2) (ih slid)
  | case3 =>
    cases slid
    exact .refl

theorem slides_down (after : List Edit) (new : Nat)
    (slid : slideOverDown a b old len e before = (left, e', before')) :
    left ≤ len ∧ ReflTransGen (Down a b) ⟨before, e, run .keep old new len ++ after⟩
      ⟨before', e', run .keep (old + (len - left)) (new + (len - left)) left ++ after⟩ := by
  fun_induction slideOverDown a b old len e before generalizing new with
  | case1 =>
    cases slid
    exact ⟨Nat.le_refl 0, .refl⟩
  | case2 old len e before here ih =>
    obtain ⟨less, steps⟩ := ih (new + 1) slid
    refine ⟨Nat.le_succ_of_le less, .head (.slide here.1 here.2) ?_⟩
    rwa [Nat.add_assoc, Nat.add_assoc, Nat.add_comm 1, ← Nat.sub_add_comm less] at steps
  | case3 =>
    cases slid
    rw [Nat.sub_self]
    exact ⟨Nat.le_refl _, .refl⟩

theorem moves_over (before : List Edit) (kept : q.kind = .keep)
    (slid : slideOverUp a b q.old q.len e after = (left, e', after')) :
    ReflTransGen (Up a b) ⟨q :: before, e, after⟩
      ⟨run .keep q.old q.new left ++ before, e', after'⟩ := by
  by_cases none : q.len = 0
  · rw [none] at slid
    cases slid
    exact .single (.drop kept none)
  · have steps := slides_up before q.new slid
    rwa [run_of_keep kept none] at steps

theorem moves_under (after : List Edit) (kept : q.kind = .keep)
    (slid : slideOverDown a b q.old q.len e before = (left, e', before')) :
    ReflTransGen (Down a b) ⟨before, e, q :: after⟩ ⟨before', e',
      run .keep (q.old + (q.len - left)) (q.new + (q.len - left)) left ++ after⟩ := by
  by_cases none : q.len = 0
  · rw [none] at slid
    cases slid
    exact .single (.drop kept none)
  · have steps := (slides_down after q.new slid).2
    rwa [run_of_keep kept none] at steps

theorem moves_up (a b : List α) (before : List Edit) (e : Edit) (after : List Edit) :
    ReflTransGen (Up a b) ⟨before, e, after⟩ (moveUp a b before e after) := by
  fun_induction moveUp a b before e after with
  | case1 => exact .refl
  | case2 q before e after kept e' after' slid ih => exact (moves_over before kept slid).trans ih
  | case3 q before e after kept left e' after' some slid =>
    have steps := moves_over before kept slid
    rwa [run_of_pos _ _ _ some, ← kept] at steps
  | case4 q before e after change same ih => exact .head (.join change same) ih
  | case5 q before e after change other ih => exact .head (.swap change other) ih

theorem moves_down (a b : List α) (before : List Edit) (e : Edit) (after : List Edit) :
    ReflTransGen (Down a b) ⟨before, e, after⟩ (moveDown a b before e after) := by
  fun_induction moveDown a b before e after with
  | case1 => exact .refl
  | case2 before e q after kept e' before' slid ih => exact (moves_under after kept slid).trans ih
  | case3 before e q after kept left e' before' some slid gone =>
    have under := moves_under after kept slid
    rwa [run_of_pos _ _ _ some] at under
  | case4 before e q after change same ih => exact .head (.join change same) ih
  | case5 before e q after change other ih => exact .head (.swap change other) ih

end Moves

section Steps

variable {before after es : List Edit} {e q : Edit}

theorem toList_below (before : List Edit) (q e : Edit) (after : List Edit) :
    Focus.toList ⟨q :: before, e, after⟩ = before.reverse ++ q :: e :: after := by
  simp [Focus.toList]

theorem eq_of_sameLine [BEq α] [LawfulBEq α] (h : sameLine a b i j = true) : a[i]? = b[j]? := by
  rw [sameLine] at h
  split at h
  · next x y left right => rw [left, right, eq_of_beq h]
  · cases h

theorem replaces_swap (first : q.kind ≠ .keep) (second : e.kind ≠ .keep) (other : q.kind ≠ e.kind)
    (es : List Edit) : Replaces a b (q :: e :: es) (e :: q :: es) where
  aligned := by
    rintro i j ⟨sitsAbove, sitsBelow, rest⟩
    obtain ⟨kind, qOld, qNew, qLen⟩ := q
    obtain ⟨kind', eOld, eNew, eLen⟩ := e
    cases kind with
    | keep => contradiction
    | delete =>
      cases kind' with
      | keep => contradiction
      | delete => contradiction
      | insert => exact ⟨sitsBelow, sitsAbove, rest⟩
    | insert =>
      cases kind' with
      | keep => contradiction
      | delete => exact ⟨sitsBelow, sitsAbove, rest⟩
      | insert => contradiction
  old := by simp [Nat.add_left_comm]
  new := by simp [Nat.add_left_comm]

theorem replaces_join (same : q.kind = e.kind)
    (follows : ∀ {i j}, q.Sits a b i j → e.Sits a b (i + q.oldLen) (j + q.newLen) →
      Edit.Sits a b i j { q with len := q.len + e.len }) (es : List Edit) :
    Replaces a b (q :: e :: es) ({ q with len := q.len + e.len } :: es) := by
  have old : Edit.oldLen { q with len := q.len + e.len } = q.oldLen + e.oldLen := by
    rw [Edit.oldLen, Edit.oldLen, Edit.oldLen, ← same]
    cases q.kind <;> rfl
  have new : Edit.newLen { q with len := q.len + e.len } = q.newLen + e.newLen := by
    rw [Edit.newLen, Edit.newLen, Edit.newLen, ← same]
    cases q.kind <;> rfl
  refine ⟨?_, ?_, ?_⟩
  · rintro i j ⟨sitsAbove, sitsBelow, rest⟩
    refine ⟨follows sitsAbove sitsBelow, ?_⟩
    rwa [old, new, ← Nat.add_assoc, ← Nat.add_assoc]
  · simp [old, Nat.add_assoc]
  · simp [new, Nat.add_assoc]

theorem Edit.Sits.join (change : q.kind ≠ .keep) (h : q.Sits a b i j) (len : Nat) :
    Edit.Sits a b i j { q with len := q.len + len } := by
  obtain ⟨some, sits⟩ := h
  refine ⟨Nat.add_pos_left some _, ?_⟩
  obtain ⟨kind, old, new, len⟩ := q
  cases kind with
  | keep => contradiction
  | delete => exact sits
  | insert => exact sits

theorem aligned_run {len : Nat} : Aligned a b i j (run .keep i j len ++ es) ↔
    Agree a b i j len ∧ Aligned a b (i + len) (j + len) es := by
  rw [run]
  split
  · next none =>
    subst none
    simp [Agree]
  · next some => simp [Along, Edit.Sits, Edit.oldLen, Edit.newLen, Nat.pos_of_ne_zero some]

theorem aligned_keepBefore (line : a[i]? = b[j]?) (h : Aligned a b (i + 1) (j + 1) es) :
    Aligned a b i j (keepBefore i j es) := by
  have alone : Agree a b i j 1 := agree_succ.2 ⟨line, nofun⟩
  cases es with
  | nil => exact ⟨⟨Nat.one_pos, rfl, rfl, alone⟩, trivial⟩
  | cons e es =>
    rw [keepBefore]
    split
    · next kept =>
      obtain ⟨kind, old, new, len⟩ := e
      cases kept
      obtain ⟨⟨some, rfl, rfl, agree⟩, rest⟩ := h
      refine ⟨⟨Nat.succ_pos len, rfl, rfl, agree_succ.2 ⟨line, agree⟩⟩, ?_⟩
      simpa [Edit.oldLen, Edit.newLen, Nat.add_assoc, Nat.add_comm 1] using rest
    · exact ⟨⟨Nat.one_pos, rfl, rfl, alone⟩, h⟩

theorem sizes_keepBefore (old new : Nat) (es : List Edit) :
    oldSize (keepBefore old new es) = oldSize es + 1 ∧
      newSize (keepBefore old new es) = newSize es + 1 := by
  cases es with
  | nil => exact ⟨rfl, rfl⟩
  | cons e es =>
    rw [keepBefore]
    split
    · next kept =>
      simp only [oldSize_cons, newSize_cons, Edit.oldLen, Edit.newLen, kept]
      omega
    · simp only [oldSize_cons, newSize_cons, Edit.oldLen, Edit.newLen]
      omega

@[simp] theorem reverse_run (kind : Kind) (old new len : Nat) :
    (run kind old new len).reverse = run kind old new len := by
  rw [run]
  split <;> rfl

theorem sizes_run (old new len : Nat) :
    oldSize (run .keep old new len) = len ∧ newSize (run .keep old new len) = len := by
  rw [run]
  split
  · next none => exact ⟨none.symm, none.symm⟩
  · exact ⟨Nat.add_zero len, Nat.add_zero len⟩

theorem fits_keepAfter {old new : Nat}
    (h : Fits a b (before.reverse ++ ⟨.keep, old, new, 1⟩ :: es)) :
    Fits a b ((keepAfter old new before).reverse ++ es) := by
  cases before with
  | nil => exact h
  | cons k before =>
    rw [keepAfter]
    split
    · next kept =>
      rw [List.reverse_cons, List.append_assoc] at h ⊢
      refine h.replace (replaces_join kept (fun {i j} above below => ?_) es)
      obtain ⟨kind, old, new, len⟩ := k
      cases kept
      obtain ⟨-, rfl, rfl, agree⟩ := above
      exact ⟨Nat.succ_pos len, rfl, rfl, agree_succ_last.2 ⟨agree, below.2.2.2 0 Nat.one_pos⟩⟩
    · simpa using h

theorem replaces_drop (kept : q.kind = .keep) (none : q.len = 0) (es : List Edit) :
    Replaces a b (q :: es) es where
  aligned := by
    rintro i j ⟨⟨some, -⟩, -⟩
    exact absurd none some.ne'
  old := by simp [Edit.oldLen, kept, none]
  new := by simp [Edit.newLen, kept, none]

theorem replaces_slide_up [BEq α] [LawfulBEq α] {old new len : Nat} (inserts : e.kind = .insert)
    (equal : sameLine a b (old + len) (e.new + e.len - 1) = true) (es : List Edit) :
    Replaces a b (⟨.keep, old, new, len + 1⟩ :: e :: es)
      (run .keep old new len ++ { e with old := e.old - 1, new := e.new - 1 } ::
        keepBefore (old + len) (e.new + e.len - 1) es) := by
  obtain ⟨kind, eOld, eNew, eLen⟩ := e
  cases inserts
  obtain ⟨runOld, runNew⟩ := sizes_run old new len
  obtain ⟨keptOld, keptNew⟩ := sizes_keepBefore (old + len) (eNew + eLen - 1) es
  refine ⟨?_, ?_, ?_⟩
  · rintro i j ⟨⟨-, rfl, rfl, agree⟩, ⟨some, here⟩, rest⟩
    subst here
    have place : new + (len + 1) + eLen - 1 = new + len + eLen := by omega
    have line := eq_of_sameLine equal
    dsimp only [Edit.newLen] at line ⊢
    rw [place] at line ⊢
    refine aligned_run.2 ⟨(agree_succ_last.1 agree).1, ⟨some, rfl⟩, aligned_keepBefore line ?_⟩
    refine Aligned.at rest ?_ ?_
    · simp only [Edit.oldLen]
      omega
    · simp only [Edit.newLen]
      omega
  · simp only [oldSize_append, oldSize_cons, runOld, keptOld, Edit.oldLen]
    omega
  · simp only [newSize_append, newSize_cons, runNew, keptNew, Edit.newLen]
    omega

theorem replaces_slide_down [BEq α] [LawfulBEq α] {old new len : Nat} (inserts : e.kind = .insert)
    (equal : sameLine a b old e.new = true) (es : List Edit) :
    Replaces a b (e :: ⟨.keep, old, new, len + 1⟩ :: es)
      (⟨.keep, old, e.new, 1⟩ :: { e with old := e.old + 1, new := e.new + 1 } ::
        run .keep (old + 1) (new + 1) len ++ es) := by
  obtain ⟨kind, eOld, eNew, eLen⟩ := e
  cases inserts
  obtain ⟨runOld, runNew⟩ := sizes_run (old + 1) (new + 1) len
  refine ⟨?_, ?_, ?_⟩
  · rintro i j ⟨⟨some, here⟩, ⟨-, place, place', agree⟩, rest⟩
    subst here place place'
    have line := eq_of_sameLine equal
    refine ⟨⟨Nat.one_pos, rfl, rfl, agree_succ.2 ⟨line, nofun⟩⟩, ⟨some, rfl⟩, ?_⟩
    refine Aligned.at (aligned_run.2 ⟨(agree_succ.1 agree).2, Aligned.at rest ?_ ?_⟩) rfl ?_
    all_goals
      simp only [Edit.oldLen, Edit.newLen]
      omega
  · simp only [oldSize_append, oldSize_cons, runOld, Edit.oldLen]
    omega
  · simp only [newSize_append, newSize_cons, runNew, Edit.newLen]
    omega

theorem Up.fits [BEq α] [LawfulBEq α] (step : Up a b f g) (change : f.edit.kind ≠ .keep)
    (h : Fits a b f.toList) : Fits a b g.toList := by
  cases step with
  | drop kept none =>
    rw [toList_below] at h
    exact h.replace (replaces_drop kept none _)
  | slide inserts equal =>
    rw [toList_below] at h
    simpa [Focus.toList] using h.replace (replaces_slide_up inserts equal _)
  | join moves same =>
    rw [toList_below] at h
    exact h.replace (replaces_join same (fun sits _ => sits.join moves _) _)
  | swap moves other =>
    rw [toList_below] at h
    exact h.replace (replaces_swap moves change other _)

theorem Down.fits [BEq α] [LawfulBEq α] (step : Down a b f g) (change : f.edit.kind ≠ .keep)
    (h : Fits a b f.toList) : Fits a b g.toList := by
  cases step with
  | @drop before after q e kept none =>
    rw [Focus.toList, List.append_cons] at h ⊢
    exact h.replace (replaces_drop kept none _)
  | slide inserts equal =>
    exact fits_keepAfter (h.replace (replaces_slide_down inserts equal _))
  | join moves same =>
    exact h.replace (replaces_join same.symm (fun sits _ => sits.join change _) _)
  | swap moves other =>
    rw [toList_below]
    exact h.replace (replaces_swap change moves other.symm _)

theorem Up.kind_eq [BEq α] (step : Up a b f g) : g.edit.kind = f.edit.kind := by
  cases step with
  | drop | slide | swap => rfl
  | join _ same => exact same

theorem Down.kind_eq [BEq α] (step : Down a b f g) : g.edit.kind = f.edit.kind := by
  cases step <;> rfl

end Steps

end ScriptDesk.Diff
