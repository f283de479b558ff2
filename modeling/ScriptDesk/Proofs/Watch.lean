import ScriptDesk.Proofs.Workspace
import ScriptDesk.Watch

namespace ScriptDesk

@[simp] theorem Session.path_settle (r : Resolution) (disk : Text) (s : Session) :
    (Watch.settle r disk s).path = s.path := by
  cases r <;> rfl

namespace Watch

inductive Claims (w : Workspace) (v : Watch) : Except SkipReason Ticket × Watch → Prop
  | shut (shut : v.shutDown = true) : Claims w v (.error .shutDown, v)
  | blocked (up : v.shutDown = false) (kept : v.conflict.any (applies · w) = true) :
      Claims w v (.error .conflictPending, v)
  | refused (reason : SkipReason) (up : v.shutDown = false)
      (lapsed : v.conflict.any (applies · w) = false) :
      Claims w v (.error reason, { v with conflict := none })
  | granted {s : Session} (up : v.shutDown = false)
      (lapsed : v.conflict.any (applies · w) = false) (idle : v.reading = false)
      (current : w.currentSession? = some s) (free : s.saving = false) :
      Claims w v
        (.ok ⟨s.path, w.generation, s.revision⟩, { v with conflict := none, reading := true })

theorem claims (w : Workspace) (v : Watch) : v.Claims w (v.claim w) := by
  unfold claim
  split
  · exact .shut ‹_›
  · next up =>
    rw [Bool.not_eq_true] at up
    split
    · exact .blocked up ‹_›
    · next lapsed =>
      rw [Bool.not_eq_true] at lapsed
      simp only
      split
      · exact .refused _ up lapsed
      · next idle =>
        rw [Bool.not_eq_true] at idle
        split
        · exact .refused _ up lapsed
        · next s current =>
          split
          · exact .refused _ up lapsed
          · next free =>
            rw [Bool.not_eq_true] at free
            exact .granted up lapsed idle current free

theorem snd_resolve (r : Resolution) (w : Workspace) (v : Watch) :
    (v.resolve r w).2.2 = { v with conflict := none } := by
  unfold resolve
  cases h : v.conflict with
  | none => simp [← h]
  | some c =>
    simp only
    split
    · rfl
    · split <;> rfl

theorem applies_eq_true {c : Conflict} {w : Workspace} :
    applies c w = true ↔ ∃ s, w.session? c.path = some s ∧ s.id = c.session := by
  unfold applies
  cases w.session? c.path <;> simp

structure Fits (t : Ticket) (w : Workspace) (v : Watch) (s : Session) : Prop where
  up : v.shutDown = false
  generation : w.generation = t.generation
  opened : w.session? t.path = some s
  revision : s.revision = t.revision
  free : s.saving = false

theorem fits_of_judge {t : Ticket} {disk : Text} {w : Workspace} {v : Watch}
    (h : judge t disk w v ≠ .discarded) :
    ∃ s, Fits t w v s ∧ judge t disk w v =
      if disk = s.baseline then .unchanged
      else if s.dirty then .conflict ⟨t.path, s.id, disk, s.revision⟩ else .adopted t.path := by
  unfold judge at h ⊢
  cases fresh : v.shutDown || w.generation != t.generation with
  | true => simp [fresh] at h
  | false =>
    cases opened : w.session? t.path with
    | none => simp [fresh, opened] at h
    | some s =>
      cases same : s.revision != t.revision || s.saving with
      | true => simp [fresh, opened, same] at h
      | false =>
        simp only [Bool.or_eq_false_iff, bne_eq_false_iff_eq] at fresh same
        exact ⟨s, ⟨fresh.1, fresh.2, opened, same.1, same.2⟩, by simp [same]⟩

theorem judge_eq_adopted {t : Ticket} {disk path : Text} {w : Workspace} {v : Watch}
    (h : judge t disk w v = .adopted path) :
    path = t.path ∧ ∃ s, Fits t w v s ∧ s.dirty = false := by
  have kept : judge t disk w v ≠ .discarded := by simp [h]
  obtain ⟨s, fits, judged⟩ := fits_of_judge kept
  rw [h] at judged
  split at judged
  · cases judged
  · split at judged
    · cases judged
    · next clean =>
      cases judged
      exact ⟨rfl, s, fits, by simpa using clean⟩

theorem judge_eq_conflict {t : Ticket} {disk : Text} {c : Conflict} {w : Workspace} {v : Watch}
    (h : judge t disk w v = .conflict c) :
    ∃ s, Fits t w v s ∧ s.dirty = true ∧ c = ⟨t.path, s.id, disk, s.revision⟩ := by
  have kept : judge t disk w v ≠ .discarded := by simp [h]
  obtain ⟨s, fits, judged⟩ := fits_of_judge kept
  rw [h] at judged
  split at judged
  · cases judged
  · split at judged
    · next dirty =>
      cases judged
      exact ⟨s, fits, dirty, rfl⟩
    · cases judged

@[simp] theorem judge_release (t : Ticket) (disk : Text) (w : Workspace) (v : Watch) :
    judge t disk w v.release = judge t disk w v := rfl

theorem watch_land (t : Ticket) (read : Except IoError Text) (w : Workspace) (v : Watch) :
    (v.land t read w).2.2 = v.release ∨
      ∃ disk c, read = .ok disk ∧ judge t disk w v = .conflict c ∧
        (v.land t read w).2.2 = { v.release with conflict := some c } := by
  cases read with
  | error e => exact .inl rfl
  | ok disk =>
    simp only [land, judge_release]
    cases judged : judge t disk w v with
    | conflict c => exact .inr ⟨disk, c, rfl, judged, rfl⟩
    | _ => exact .inl rfl

theorem touches_resolve (r : Resolution) (w : Workspace) (v : Watch) :
    w.Touches (v.resolve r w).2.1 := by
  unfold resolve
  cases v.conflict with
  | none => exact w.touches_self
  | some c =>
    cases hs : w.session? c.path with
    | none => simpa [hs] using w.touches_self
    | some s =>
      simp only [hs]
      split
      · exact w.touches_modify (by simp)
      · exact w.touches_self

theorem touches_land (t : Ticket) (read : Except IoError Text) (w : Workspace) (v : Watch) :
    w.Touches (v.land t read w).2.1 := by
  unfold land
  cases read with
  | error e => exact w.touches_self
  | ok disk =>
    simp only
    split
    · exact w.touches_modify (by simp)
    · exact w.touches_self
    · exact w.touches_self

end Watch
end ScriptDesk
