import ScriptDesk.Proofs.Compact

/-! Where an insertion has recorded its old place.  An insertion that changes places with a deletion
does not record its new place, so below a deletion the record may be off; above the first one it is
right, unless a deletion comes before the next kept line.  For a deletion that an insertion has left
below it on its way up, it meets again on its way down. -/

namespace ScriptDesk.Diff

variable {α : Type} {a b : List α} {f g : Focus} {above es fs before after : List Edit}
  {e q : Edit} {i j new : Nat}

def Deletes (es : List Edit) : Prop := ∃ d ∈ es, d.kind = .delete

@[simp] theorem deletes_cons : Deletes (e :: es) ↔ e.kind = .delete ∨ Deletes es := by
  simp [Deletes]

def DeletesNext : List Edit → Prop
  | [] => False
  | e :: es =>
    match e.kind with
    | .keep => False
    | .delete => True
    | .insert => DeletesNext es

/-- Up to the first deletion, every insertion records the place in the old list where the edits
above it end, or a deletion comes before the next kept line. -/
def Recorded : Nat → List Edit → Prop
  | _, [] => True
  | i, e :: es =>
    match e.kind with
    | .keep => Recorded (i + e.len) es
    | .delete => True
    | .insert => (e.old = i ∨ DeletesNext es) ∧ Recorded i es

theorem recorded_of_exact (h : Along Edit.oldLen Edit.newLen (Edit.Exact a b) i j es) :
    Recorded i es := by
  induction es generalizing i j with
  | nil => trivial
  | cons e es ih =>
    obtain ⟨⟨-, old, -⟩, rest⟩ := h
    have below := ih rest
    rw [Recorded]
    rw [Edit.oldLen] at below
    cases kind : e.kind with
    | keep => simpa only [kind] using below
    | delete => trivial
    | insert =>
      rw [kind] at below
      exact ⟨.inl old, below⟩

theorem deletesNext_replace (deletes : DeletesNext es → DeletesNext fs)
    (h : DeletesNext (above ++ es)) : DeletesNext (above ++ fs) := by
  induction above with
  | nil => exact deletes h
  | cons e above ih =>
    rw [List.cons_append, DeletesNext] at h ⊢
    cases kind : e.kind with
    | keep => simp only [kind] at h
    | delete => trivial
    | insert =>
      rw [kind] at h
      exact ih h

theorem recorded_replace (deletes : DeletesNext es → DeletesNext fs)
    (recorded : Recorded (i + oldSize above) es → Recorded (i + oldSize above) fs)
    (h : Recorded i (above ++ es)) : Recorded i (above ++ fs) := by
  induction above generalizing i with
  | nil => exact recorded h
  | cons e above ih =>
    rw [oldSize_cons, ← Nat.add_assoc] at recorded
    rw [Edit.oldLen] at recorded
    rw [List.cons_append, Recorded] at h ⊢
    cases kind : e.kind with
    | keep =>
      rw [kind] at h recorded
      exact ih recorded h
    | delete => trivial
    | insert =>
      rw [kind] at h recorded
      exact ⟨h.1.imp_right (deletesNext_replace deletes), ih recorded h.2⟩

theorem deletesNext_of_deletes (deletion : Deletes above) (h : DeletesNext (above ++ es)) :
    DeletesNext (above ++ fs) := by
  induction above with
  | nil => exact absurd deletion (by simp [Deletes])
  | cons e above ih =>
    rw [List.cons_append, DeletesNext] at h ⊢
    cases kind : e.kind with
    | keep => simp only [kind] at h
    | delete => trivial
    | insert =>
      rw [kind] at h
      refine ih ?_ h
      simpa [Deletes, kind] using deletion

theorem recorded_of_deletes (deletion : Deletes above) (h : Recorded i (above ++ es)) :
    Recorded i (above ++ fs) := by
  induction above generalizing i with
  | nil => exact absurd deletion (by simp [Deletes])
  | cons e above ih =>
    rw [List.cons_append, Recorded] at h ⊢
    have rest : e.kind ≠ .delete → Deletes above := by
      intro other
      simpa [Deletes, other] using deletion
    cases kind : e.kind with
    | keep =>
      rw [kind] at h
      exact ih (rest (by simp [kind])) h
    | delete => trivial
    | insert =>
      rw [kind] at h
      have below := rest (by simp [kind])
      exact ⟨h.1.imp_right (deletesNext_of_deletes below), ih below h.2⟩

theorem recorded_at (inserts : e.kind = .insert) (h : Recorded i (above ++ e :: es)) :
    Deletes above ∨ e.old = i + oldSize above ∨ DeletesNext es := by
  induction above generalizing i with
  | nil =>
    rw [List.nil_append, Recorded, inserts] at h
    exact .inr h.1
  | cons q above ih =>
    rw [List.cons_append, Recorded] at h
    rw [oldSize_cons, ← Nat.add_assoc, Edit.oldLen]
    have deletes (h : Deletes above) : Deletes (q :: above) := deletes_cons.2 (.inr h)
    cases kind : q.kind with
    | keep =>
      rw [kind] at h
      exact (ih h).imp_left deletes
    | delete => exact .inl (deletes_cons.2 (.inl kind))
    | insert =>
      rw [kind] at h
      exact (ih h.2).imp_left deletes

theorem recorded_run (old new len : Nat) :
    Recorded i (run .keep old new len ++ es) ↔ Recorded (i + len) es := by
  rw [run]
  split
  · next none => rw [none, List.nil_append, Nat.add_zero]
  · exact .rfl

theorem recorded_keepBefore (old new : Nat) (es : List Edit) :
    Recorded i (keepBefore old new es) ↔ Recorded (i + 1) es := by
  cases es with
  | nil => exact .rfl
  | cons e es =>
    rw [keepBefore]
    split
    · next kept =>
      rw [Recorded, Recorded]
      simp only [kept]
      rw [Nat.add_assoc, Nat.add_comm 1]
    · exact .rfl

theorem recorded_keepAfter {old : Nat}
    (h : Recorded i (before.reverse ++ ⟨.keep, old, new, 1⟩ :: es)) :
    Recorded i ((keepAfter old new before).reverse ++ es) := by
  cases before with
  | nil => exact h
  | cons k before =>
    rw [keepAfter]
    split
    · next kept =>
      rw [List.reverse_cons, List.append_assoc] at h ⊢
      refine recorded_replace ?_ ?_ h
      · intro deletes
        simp only [List.singleton_append, DeletesNext, kept] at deletes
      · intro recorded
        simpa [Recorded, kept, Nat.add_assoc] using recorded
    · simpa using h

theorem Kind.eq_insert {kind : Kind} (change : kind ≠ .keep) (other : kind ≠ .delete) :
    kind = .insert := by
  cases kind <;> trivial

theorem Kind.eq_delete {kind : Kind} (change : kind ≠ .keep) (other : kind ≠ .insert) :
    kind = .delete := by
  cases kind <;> trivial

theorem Up.recorded [BEq α] (step : Up a b f g) (deletes : f.edit.kind = .delete)
    (h : Recorded i f.toList) : Recorded i g.toList := by
  cases step with
  | @drop before after q e kept none =>
    rw [toList_below] at h
    refine recorded_replace ?_ ?_ h
    · simp [DeletesNext, kept]
    · simp [Recorded, kept, none]
  | slide inserts => rw [inserts] at deletes; contradiction
  | @join before after q e change same =>
    rw [toList_below] at h
    have deletes' : q.kind = .delete := same.trans deletes
    refine recorded_replace ?_ ?_ h
    · simp [DeletesNext, deletes']
    · simp [Recorded, deletes']
  | @swap before after q e change other =>
    rw [toList_below] at h
    dsimp only at deletes
    refine recorded_replace ?_ ?_ h
    · simp [DeletesNext, deletes]
    · simp [Recorded, deletes]

theorem Down.recorded [BEq α] (step : Down a b f g) (deletes : f.edit.kind = .delete)
    (h : Recorded i f.toList) : Recorded i g.toList := by
  cases step with
  | @drop before after q e kept none =>
    dsimp only at deletes
    refine recorded_replace ?_ ?_ h
    · simp [DeletesNext, deletes]
    · simp [Recorded, deletes]
  | slide inserts => rw [inserts] at deletes; contradiction
  | @join before after q e change same =>
    dsimp only at deletes
    refine recorded_replace ?_ ?_ h
    · simp [DeletesNext, deletes]
    · simp [Recorded, deletes]
  | @swap before after q e change other =>
    dsimp only at deletes
    have inserts : q.kind = .insert := Kind.eq_insert change (deletes ▸ other)
    rw [toList_below]
    refine recorded_replace ?_ ?_ h
    · simp [DeletesNext, deletes, inserts]
    · simp [Recorded, DeletesNext, deletes, inserts]

/-- An insertion whose lines start at `new` meets a deletion on its way down. -/
inductive Reaches [BEq α] (a b : List α) : Nat → List Edit → Prop
  | deletion {new : Nat} {q : Edit} {after : List Edit} (deletes : q.kind = .delete) :
      Reaches a b new (q :: after)
  | join {new : Nat} {q : Edit} {after : List Edit} (inserts : q.kind = .insert)
      (below : Reaches a b new after) : Reaches a b new (q :: after)
  | slide {new old place len : Nat} {after : List Edit} (equal : sameLine a b old new = true)
      (below : Reaches a b (new + 1) (run .keep (old + 1) (place + 1) len ++ after)) :
      Reaches a b new (⟨.keep, old, place, len + 1⟩ :: after)

theorem reaches_of_deletesNext [BEq α] (h : DeletesNext es) : Reaches a b new es := by
  induction es with
  | nil => exact h.elim
  | cons e es ih =>
    rw [DeletesNext] at h
    cases kind : e.kind with
    | keep => simp only [kind] at h
    | delete => exact .deletion kind
    | insert =>
      rw [kind] at h
      exact .join kind (ih h)

theorem reaches_keepBefore [BEq α] (aligned : Aligned a b (i + 1) (j + 1) es)
    (equal : sameLine a b i new = true) (h : Reaches a b (new + 1) es) :
    Reaches a b new (keepBefore i j es) := by
  cases es with
  | nil => cases h
  | cons e es =>
    rw [keepBefore]
    split
    · next kept =>
      obtain ⟨kind, old, place, len⟩ := e
      cases kept
      obtain ⟨⟨some, rfl, rfl, -⟩, -⟩ := aligned
      refine .slide equal ?_
      rwa [run_of_pos _ _ _ some.ne']
    · exact .slide equal h

theorem sameLine_of_eq [BEq α] [LawfulBEq α] {k : Nat} (equal : sameLine a b i j = true)
    (line : a[i]? = b[k]?) : sameLine a b i k = true := by
  have same : b[k]? = b[j]? := line.symm.trans (eq_of_sameLine equal)
  rw [sameLine, same]
  exact equal

theorem reaches_slide_up [BEq α] [LawfulBEq α] {old place len : Nat} (inserts : e.kind = .insert)
    (equal : sameLine a b (old + len) (e.new + e.len - 1) = true)
    (aligned : Aligned a b i j (⟨.keep, old, place, len + 1⟩ :: e :: es))
    (h : Reaches a b e.new es) :
    Reaches a b (e.new - 1) (keepBefore (old + len) (e.new + e.len - 1) es) := by
  obtain ⟨kind, eOld, eNew, eLen⟩ := e
  cases inserts
  obtain ⟨⟨-, rfl, rfl, agree⟩, ⟨some, here⟩, rest⟩ := aligned
  have before : eNew = place + len + 1 := here
  subst before
  have line : a[old + len]? = b[place + len]? := (agree_succ_last.1 agree).2
  refine reaches_keepBefore (Aligned.at rest ?_ ?_) (sameLine_of_eq equal line) h
  · simp only [Edit.oldLen]
    omega
  · simp only [Edit.newLen]
    omega

/-- The other edits record their old places, and the moving one has its own, has met a deletion or
will meet one. -/
structure Tracked [BEq α] (a b : List α) (f : Focus) : Prop where
  others : Recorded 0 (f.before.reverse ++ f.after)
  own : f.edit.old = oldSize f.before ∨ Deletes f.before ∨ Reaches a b f.edit.new f.after

@[simp] theorem oldSize_reverse (es : List Edit) : oldSize es.reverse = oldSize es := by
  rw [oldSize, List.map_reverse, List.sum_reverse, oldSize]

@[simp] theorem deletes_run_append (old len : Nat) :
    Deletes (run .keep old new len ++ es) ↔ Deletes es := by
  rw [run]
  split
  · rfl
  · simp

@[simp] theorem deletes_reverse : Deletes es.reverse ↔ Deletes es := by
  simp [Deletes]

theorem recorded_without (inserts : e.kind = .insert) (h : Recorded i (above ++ e :: es)) :
    Recorded i (above ++ es) := by
  refine recorded_replace ?_ ?_ h
  · simp [DeletesNext, inserts]
  · simp [Recorded, inserts]

theorem tracked_of_recorded [BEq α] (inserts : q.kind = .insert) (old : e.old = q.old)
    (h : Recorded 0 (before.reverse ++ q :: after)) : Tracked a b ⟨before, e, after⟩ where
  others := recorded_without inserts h
  own := by
    obtain deletion | place | next := recorded_at inserts h
    · exact .inr (.inl (deletes_reverse.1 deletion))
    · rw [Nat.zero_add, oldSize_reverse] at place
      exact .inl (old.trans place)
    · exact .inr (.inr (reaches_of_deletesNext next))

theorem Up.tracked [BEq α] [LawfulBEq α] (step : Up a b f g) (inserts : f.edit.kind = .insert)
    (fits : Fits a b f.toList) (h : Tracked a b f) : Tracked a b g := by
  obtain ⟨others, own⟩ := h
  cases step with
  | @drop before after q e kept none =>
    rw [List.reverse_cons, List.append_assoc] at others
    refine ⟨recorded_replace ?_ ?_ others, ?_⟩
    · simp [DeletesNext, kept]
    · simp [Recorded, kept, none]
    · simpa [Edit.oldLen, kept, none] using own
  | @slide before after old new len e _ equal =>
    rw [List.reverse_cons, List.append_assoc] at others
    rw [toList_below] at fits
    refine ⟨?_, ?_⟩
    · rw [List.reverse_append, reverse_run, List.append_assoc]
      refine recorded_replace ?_ ?_ others
      · simp [DeletesNext]
      · intro recorded
        rw [recorded_run, recorded_keepBefore]
        exact recorded
    · obtain old | deletion | reaches := own
      · refine .inl ?_
        simp only [oldSize_append, oldSize_cons, (sizes_run _ _ len).1, Edit.oldLen] at old ⊢
        omega
      · refine .inr (.inl ?_)
        simpa using deletion
      · exact .inr (.inr (reaches_slide_up inserts equal (aligned_append.1 fits.aligned).2 reaches))
  | @join before after q e change same =>
    have inserts' : q.kind = .insert := same.trans inserts
    rw [List.reverse_cons, List.append_assoc] at others
    exact tracked_of_recorded inserts' rfl others
  | @swap before after q e change other =>
    rw [List.reverse_cons, List.append_assoc] at others
    dsimp only at inserts other
    have deletes : q.kind = .delete := Kind.eq_delete change (inserts ▸ other)
    exact ⟨others, .inr (.inr (.deletion deletes))⟩

theorem oldSize_keepAfter (old new : Nat) (es : List Edit) :
    oldSize (keepAfter old new es) = oldSize es + 1 := by
  cases es with
  | nil => rfl
  | cons e es =>
    rw [keepAfter]
    split
    · next kept =>
      simp only [oldSize_cons, Edit.oldLen, kept]
      omega
    · simp only [oldSize_cons, Edit.oldLen]
      omega

theorem deletes_keepAfter (old new : Nat) (es : List Edit) :
    Deletes (keepAfter old new es) ↔ Deletes es := by
  cases es with
  | nil => simp [keepAfter]
  | cons e es =>
    rw [keepAfter]
    split
    · simp
    · simp

theorem Down.tracked [BEq α] (step : Down a b f g) (inserts : f.edit.kind = .insert)
    (h : Tracked a b f) : Tracked a b g := by
  obtain ⟨others, own⟩ := h
  cases step with
  | @drop before after q e kept none =>
    refine ⟨recorded_replace ?_ ?_ others, own.imp_right (.imp_right fun reaches => ?_)⟩
    · simp [DeletesNext, kept]
    · simp [Recorded, kept, none]
    · cases reaches with
      | deletion deletes => rw [kept] at deletes; contradiction
      | join inserts => rw [kept] at inserts; contradiction
      | slide => cases none
  | @slide before after old place len e _ equal =>
    have kept : Recorded 0 (before.reverse ++ ⟨.keep, old, e.new, 1⟩ ::
        (run .keep (old + 1) (place + 1) len ++ after)) := by
      refine recorded_replace ?_ ?_ others
      · simp [DeletesNext]
      · intro recorded
        rw [Recorded, recorded_run]
        simpa [Recorded, Nat.add_assoc, Nat.add_comm 1] using recorded
    refine ⟨recorded_keepAfter kept, ?_⟩
    obtain place | deletion | reaches := own
    · refine .inl ?_
      rw [oldSize_keepAfter]
      exact congrArg (· + 1) place
    · exact .inr (.inl ((deletes_keepAfter _ _ _).2 deletion))
    · cases reaches with
      | deletion deletes => cases deletes
      | join inserts => cases inserts
      | slide _ below => exact .inr (.inr below)
  | @join before after q e change same =>
    have inserts' : q.kind = .insert := same.trans inserts
    refine ⟨recorded_without inserts' others, own.imp_right (.imp_right fun reaches => ?_)⟩
    cases reaches with
    | deletion deletes => rw [inserts'] at deletes; contradiction
    | join _ below => exact below
    | slide => cases inserts'
  | @swap before after q e change other =>
    have deletes : q.kind = .delete := Kind.eq_delete change (inserts ▸ other)
    refine ⟨?_, .inr (.inl (deletes_cons.2 (.inl deletes)))⟩
    rw [List.reverse_cons, List.append_assoc]
    exact others

theorem stopped_of_left [BEq α] {old len left : Nat} {e' : Edit} {before' : List Edit}
    (inserts : e.kind = .insert)
    (slid : slideOverDown a b old len e before = (left + 1, e', before')) :
    sameLine a b (old + (len - (left + 1))) e'.new = false := by
  fun_induction slideOverDown a b old len e before with
  | case1 => cases slid
  | case2 old len e before here ih =>
    have less := (slides_down (a := a) (b := b) [] 0 slid).1
    have rest := ih inserts slid
    rwa [Nat.add_assoc, Nat.add_comm 1, ← Nat.sub_add_comm less] at rest
  | case3 old len e before there =>
    cases slid
    rw [Nat.sub_self, Nat.add_zero]
    simpa [inserts] using there

theorem kept_by_steps {Step : Focus → Focus → Prop} {P : Focus → Prop}
    (step : ∀ {f g}, Step f g → P f → P g) (steps : Relation.ReflTransGen Step f g) (h : P f) :
    P g := by
  induction steps with
  | refl => exact h
  | tail _ last ih => exact step last ih

theorem Down.kind_of_steps [BEq α] {kind : Kind} (h : f.edit.kind = kind)
    (steps : Relation.ReflTransGen (Down a b) f g) : g.edit.kind = kind :=
  kept_by_steps (P := fun f => f.edit.kind = kind) (fun step => step.kind_eq.trans) steps h

theorem not_reaches_of_moveDown [BEq α] (inserts : e.kind = .insert) :
    ¬ Reaches a b (moveDown a b before e after).edit.new (moveDown a b before e after).after := by
  fun_induction moveDown a b before e after with
  | case1 =>
    intro reaches
    cases reaches
  | case2 before e q after kept e' before' slid ih =>
    exact ih (Down.kind_of_steps inserts (moves_under after kept slid))
  | case3 before e q after kept left e' before' some slid gone =>
    intro reaches
    cases left with
    | zero => exact some rfl
    | succ left =>
      have stopped := stopped_of_left inserts slid
      cases reaches with
      | deletion deletes => cases deletes
      | join inserts => cases inserts
      | slide equal => exact absurd equal (by simpa [gone] using stopped)
  | case4 before e q after change same ih => exact ih inserts
  | case5 before e q after change other ih => exact ih inserts

structure Kept (a b : List α) (es : List Edit) : Prop where
  fits : Fits a b es
  recorded : Recorded 0 es

structure Deleting (a b : List α) (f : Focus) : Prop extends Kept a b f.toList where
  kind : f.edit.kind = .delete

structure Inserting [BEq α] (a b : List α) (f : Focus) : Prop where
  kind : f.edit.kind = .insert
  fits : Fits a b f.toList
  tracked : Tracked a b f

theorem Inserting.stops [BEq α] (h : Inserting a b f)
    (stopped : ¬ Reaches a b f.edit.new f.after) : Kept a b f.toList where
  fits := h.fits
  recorded := by
    obtain ⟨others, own⟩ := h.tracked
    obtain old | deletion | reaches := own
    · refine recorded_replace ?_ ?_ others
      · simp [DeletesNext, h.kind]
      · simp [Recorded, h.kind, old]
    · exact recorded_of_deletes (deletes_reverse.2 deletion) others
    · exact absurd reaches stopped

theorem kept_by_moves [BEq α] {P : Focus → Prop} (up : ∀ {f g}, Up a b f g → P f → P g)
    (down : ∀ {f g}, Down a b f g → P f → P g) (h : P ⟨before, e, after⟩) :
    let top := moveUp a b before e after
    P (moveDown a b top.before top.edit top.after) :=
  kept_by_steps down (moves_down a b _ _ _) (kept_by_steps up (moves_up a b before e after) h)

section Passes

variable [BEq α] [LawfulBEq α]

theorem Deleting.up (step : Up a b f g) (h : Deleting a b f) : Deleting a b g where
  kind := step.kind_eq.trans h.kind
  fits := step.fits (h.kind.trans_ne nofun) h.fits
  recorded := step.recorded h.kind h.recorded

theorem Deleting.down (step : Down a b f g) (h : Deleting a b f) : Deleting a b g where
  kind := step.kind_eq.trans h.kind
  fits := step.fits (h.kind.trans_ne nofun) h.fits
  recorded := step.recorded h.kind h.recorded

theorem Inserting.up (step : Up a b f g) (h : Inserting a b f) : Inserting a b g where
  kind := step.kind_eq.trans h.kind
  fits := step.fits (h.kind.trans_ne nofun) h.fits
  tracked := step.tracked h.kind h.fits h.tracked

theorem Inserting.down (step : Down a b f g) (h : Inserting a b f) : Inserting a b g where
  kind := step.kind_eq.trans h.kind
  fits := step.fits (h.kind.trans_ne nofun) h.fits
  tracked := step.tracked h.kind h.tracked

theorem Kept.moved (change : e.kind ≠ .keep) (h : Kept a b (before.reverse ++ e :: after)) :
    let top := moveUp a b before e after
    Kept a b (moveDown a b top.before top.edit top.after).toList := by
  intro top
  cases kind : e.kind with
  | keep => exact absurd kind change
  | delete => exact (kept_by_moves .up .down (Deleting.mk h kind)).toKept
  | insert =>
    have inserting : Inserting a b ⟨before, e, after⟩ :=
      ⟨kind, h.fits, tracked_of_recorded kind rfl h.recorded⟩
    have topKind : top.edit.kind = .insert :=
      (kept_by_steps (P := Inserting a b) .up (moves_up a b before e after) inserting).kind
    exact (kept_by_moves .up .down inserting).stops (not_reaches_of_moveDown topKind)

theorem Kept.settled {kind : Kind} (change : kind ≠ .keep) (steps : Nat)
    (h : Kept a b (before.reverse ++ after)) : Kept a b (settle a b kind steps before after) := by
  fun_induction settle a b kind steps before after with
  | case1 => exact h
  | case2 => simpa using h
  | case3 steps before e after same up down ih =>
    refine ih ?_
    rw [List.reverse_cons, List.append_assoc]
    exact h.moved (same.trans_ne change)
  | case4 steps before e after other ih =>
    refine ih ?_
    rwa [List.reverse_cons, List.append_assoc]

theorem kept_compact (a b : List α) : Kept a b (compact a b (shortest a b)) := by
  have start : Kept a b (shortest a b) :=
    ⟨(bridges_shortest a b).fits, recorded_of_exact (bridges_shortest a b).exact⟩
  have deleted : Kept a b (settle a b .delete (a.length + b.length) [] (shortest a b)) :=
    start.settled (by decide) _
  exact deleted.settled (by decide) _

end Passes

end ScriptDesk.Diff
