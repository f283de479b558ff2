import ScriptDesk.Proofs.Resolution
import ScriptDesk.Proofs.Saves

namespace ScriptDesk

theorem Disk.snd_write_of_error {d : Disk} {path text : Text} {error : IoError}
    (h : (d.write path text).1 = .error error) : (d.write path text).2 = d := by
  unfold write at h ⊢
  split at h
  · next refuses => rw [if_pos refuses]
  · cases h

namespace Desk

theorem save_fails_or_waits (d : Desk) :
    (∃ failure, (d.begin .save).1 = .done (.error failure)) ∨
    ∃ path s, d.workspace.current? = some path ∧ d.workspace.session? path = some s ∧
      (d.begin .save).1 = .waits (.saving path s.working) := by
  cases current : d.workspace.current? with
  | none => exact .inl ⟨.noActiveSession, by simp [begin, within, Workspace.save, current]⟩
  | some path =>
    have saves : d.saves path .save = true := beq_iff_eq.2 current
    simp only [begin_of_saves saves, within, Workspace.savePath]
    split
    · exact .inl ⟨_, rfl⟩
    · next s opened =>
      split
      · exact .inl ⟨_, rfl⟩
      · exact .inr ⟨path, s, rfl, opened, rfl⟩

end Desk

namespace Bench

def written : Except IoError Unit → Result
  | .ok () => .ok .done
  | .error e => .error (.io e)

theorem echo_of_save {b : Bench} {e : Event} {t : BenchTask} {path text : Text}
    (finished : b.finished? e = some t) (pending : t.pending = .saving path text) :
    (b.step e).1 =
      (b.step e).2.desk.echo t.report (written (b.disk.write path text).1) := by
  rw [echo_of_finished finished, pending]
  simp only [Desk.land, Desk.within, Disk.access]
  cases (b.disk.write path text).1 <;> rfl

theorem disk_step_of_save {b : Bench} {e : Event} {t : BenchTask} {path text : Text}
    (finished : b.finished? e = some t) (pending : t.pending = .saving path text) :
    (b.step e).2.disk = (b.disk.write path text).2 := by
  rw [(step_of_finished finished).2, pending]
  rfl

theorem current?_step_of_save {b : Bench} {e : Event} {t : BenchTask} {path text : Text}
    (finished : b.finished? e = some t) (pending : t.pending = .saving path text) :
    (b.step e).2.current? = b.current? := by
  rw [current?, (step_of_finished finished).1, pending]
  obtain ⟨-, sessions, landed⟩ :=
    b.desk.workspace.touches_landSaving path text (b.disk.write path text).1
  simp only [Desk.land, Desk.within, Disk.access, Desk.current?_flushed, landed]
  rfl

theorem holds_since {u : Setup} {es es' : List Event} {path : Text} {s : Session}
    (opened : (u.bench.run es).session? path = some s)
    (now : (u.bench.run (es ++ es')).Holds path s.id) :
    ∀ x ∈ (u.bench.run es).states es', x.Holds path s.id := by
  rw [run_append] at now
  rcases session_run es' opened with removed | ⟨stays, -⟩
  · exact absurd now (not_holds_of_removed (idsGiven u es path s opened) removed)
  · exact stays

theorem step_of_written {b : Bench} {e : Event} {t : BenchTask} {path text : Text} {s : Session}
    (finished : b.finished? e = some t) (pending : t.pending = .saving path text)
    (opened : b.session? path = some s) (write : (b.disk.write path text).1 = .ok ()) :
    (b.step e).2.disk.contents path = some text ∧
      (b.step e).2.session? path =
        some { s with baseline := text, saving := false, revision := s.revision + 1 } := by
  constructor
  · rw [disk_step_of_save finished pending]
    exact Disk.contents_write write
  · rw [session?_step_of_save finished pending, if_pos rfl, opened, write]
    rfl

theorem step_of_unwritten {b : Bench} {e : Event} {t : BenchTask} {path text : Text} {s : Session}
    (finished : b.finished? e = some t) (pending : t.pending = .saving path text)
    (opened : b.session? path = some s) {error : IoError}
    (write : (b.disk.write path text).1 = .error error) :
    (b.step e).2.disk = b.disk ∧ (b.step e).2.session? path = some { s with saving := false } := by
  constructor
  · exact (disk_step_of_save finished pending).trans (Disk.snd_write_of_error write)
  · rw [session?_step_of_save finished pending, if_pos rfl, opened, write]
    rfl

/-- A save that lands while its session is open makes what it wrote the baseline, and leaves the
working text as it is by then. -/
theorem save_rebases_what_it_wrote {u : Setup} {es₁ es₂ : List Event} {e₁ e : Event}
    {t : BenchTask} {path text : Text} {s₁ : Session}
    (begun : (u.bench.run es₁).PendingSince e₁ es₂ t) (pending : t.pending = .saving path text)
    (opened : (u.bench.run es₁).session? path = some s₁)
    (stays : (u.bench.run (es₁ ++ e₁ :: es₂)).Holds path s₁.id)
    (finished : (u.bench.run (es₁ ++ e₁ :: es₂)).finished? e = some t) :
    let b := u.bench.run (es₁ ++ e₁ :: es₂)
    let b' := (b.step e).2
    let write := (b.disk.write path s₁.working).1
    text = s₁.working ∧ (∀ x ∈ (u.bench.run es₁).states (e₁ :: es₂), x.Holds path s₁.id) ∧
    (∀ other, other ≠ path → b'.session? other = b.session? other) ∧
    (b.step e).1 = b'.desk.echo t.report (written write) ∧
    ∃ s, b.session? path = some s ∧ s.id = s₁.id ∧
      (write = .ok () →
        b'.disk.contents path = some s₁.working ∧
        ∃ s', b'.session? path = some s' ∧
          s' = { s with
            baseline := s₁.working
            saving := false
            revision := s.revision + 1 } ∧
          (s'.dirty = true ↔ s.working ≠ s₁.working)) ∧
      ∀ error, write = .error error →
        b'.disk = b.disk ∧ b'.session? path = some { s with saving := false } := by
  have working : text = s₁.working := by
    obtain ⟨s, opened', -, working⟩ := begun_of_begins begun.begun pending
    cases opened.symm.trans opened'
    exact working.symm
  subst working
  obtain ⟨s, now, id⟩ := stays
  refine ⟨rfl, holds_since opened ⟨s, now, id⟩, ?_, echo_of_save finished pending, s, now, id, ?_, ?_⟩
  · intro other elsewhere
    rw [session?_step_of_save finished pending, if_neg (Ne.symm elsewhere)]
  · intro write
    obtain ⟨there, after⟩ := step_of_written finished pending now write
    exact ⟨there, _, after, rfl, by simp [Session.dirty]⟩
  · intro error write
    exact step_of_unwritten finished pending now write

theorem save_lands_on_reloaded_file :
    let b₁ := (Setup.ofFiles [(['a'], ['x'])]).bench.run
      [.start 0 (.act (.openFile ['a'])), .finish 0, .start 1 (.act (.edit ['y'])),
        .insert ['a'] ['z'], .start 2 (.act .check), .finish 2]
    let b := b₁.run [.start 3 (.message .save), .start 4 (.message .reloadTheirs),
      .start 5 (.act (.edit ['v']))]
    b₁.session? ['a'] = some ⟨1, ['a'], ['x'], ['y'], false, 0⟩ ∧
      b.session? ['a'] = some ⟨1, ['a'], ['z'], ['v'], true, 1⟩ ∧
      (b.step (.finish 3)).2.session? ['a'] = some ⟨1, ['a'], ['y'], ['v'], false, 2⟩ ∧
      (b.step (.finish 3)).2.disk.contents ['a'] = some ['y'] := by
  have begun : ((Setup.ofFiles [(['a'], ['x'])]).bench.run
      [.start 0 (.act (.openFile ['a'])), .finish 0, .start 1 (.act (.edit ['y'])),
        .insert ['a'] ['z'], .start 2 (.act .check), .finish 2]).PendingSince
      (.start 3 (.message .save)) [.start 4 (.message .reloadTheirs), .start 5 (.act (.edit ['v']))]
      ⟨3, .saving ['a'] ['y'], some .saved⟩ := ⟨⟨.message .save, .save, rfl, rfl, rfl⟩, by decide⟩
  have opened : ((Setup.ofFiles [(['a'], ['x'])]).bench.run
      [.start 0 (.act (.openFile ['a'])), .finish 0, .start 1 (.act (.edit ['y'])),
        .insert ['a'] ['z'], .start 2 (.act .check), .finish 2]).session? ['a'] =
      some ⟨1, ['a'], ['x'], ['y'], false, 0⟩ := by decide
  obtain ⟨-, -, -, -, s, now, -, lands, -⟩ := save_rebases_what_it_wrote (e := .finish 3) begun rfl
    opened ⟨⟨1, ['a'], ['z'], ['v'], true, 1⟩, by decide, rfl⟩ (by decide)
  obtain rfl : (⟨1, ['a'], ['z'], ['v'], true, 1⟩ : Session) = s :=
    Option.some.inj ((by decide : _ = _).trans now)
  obtain ⟨there, s', after, rfl, -⟩ := lands (by decide)
  exact ⟨opened, now, after, there⟩

def savedNotice (path : Text) : Except Failure Reply := .ok (.text ("Saved ".toList ++ path))

theorem savedNotice_inj {p q : Text} : savedNotice p = savedNotice q ↔ p = q := by
  simp [savedNotice]

theorem echo_of_saved {b : Bench} {e : Event} {t : BenchTask} {path text : Text}
    (finished : b.finished? e = some t) (pending : t.pending = .saving path text)
    (report : t.report = some .saved) :
    (b.step e).1 = .reply (match (b.disk.write path text).1 with
      | .ok () => savedNotice (b.current?.getD [])
      | .error error => .error (.io error)) := by
  have current := current?_step_of_save finished pending
  rw [current?] at current
  rw [echo_of_save finished pending, report]
  cases (b.disk.write path text).1 with
  | ok => simp [written, Desk.echo, Desk.reply, Desk.outcomeReply, savedNotice, current]
  | error error => rfl

theorem not_notice_of_begin (b : Bench) (id : Nat) (path : Text) :
    (b.step (.start id (.message .save))).1 ≠ .reply (savedNotice path) := by
  have begun : b.step (.start id (.message .save)) = b.begin id .save (some .saved) := rfl
  rw [begun]
  rcases b.desk.save_fails_or_waits with ⟨failure, stage⟩ | ⟨path, s, current, opened, stage⟩
  · rw [begin_done stage, show Act.save.mustPersist = false from rfl, settle_fst]
    simp [Desk.echo, Desk.reply, savedNotice]
  · rw [begin_waits stage]
    simp

/-- The notice of a save that was asked for names the path that is current when the save lands.  It
is the path whose file was saved if none other became current since the save began. -/
theorem notice_names_current_file {u : Setup} {es₁ es₂ : List Event} {id : Nat} {e : Event}
    {t : BenchTask} (begun : (u.bench.run es₁).PendingSince (.start id (.message .save)) es₂ t)
    (report : t.report = some .saved)
    (finished : (u.bench.run (es₁ ++ .start id (.message .save) :: es₂)).finished? e = some t) :
    let b₁ := u.bench.run es₁
    let b := u.bench.run (es₁ ++ .start id (.message .save) :: es₂)
    (∀ p, (b₁.step (.start id (.message .save))).1 ≠ .reply (savedNotice p)) ∧
    ∃ path s₁, b₁.current? = some path ∧ b₁.session? path = some s₁ ∧
      t.pending = .saving path s₁.working ∧
      (∀ p, (b.step e).1 = .reply (savedNotice p) ↔
        (b.disk.write path s₁.working).1 = .ok () ∧ p = b.current?.getD []) ∧
      ((b.disk.write path s₁.working).1 = .ok () →
        (b.step e).2.disk.contents path = some s₁.working) ∧
      (b.generation = b₁.generation → b.current? = some path) := by
  refine ⟨not_notice_of_begin _ id, ?_⟩
  obtain ⟨job, a, event, asked, stage⟩ := begun.begun
  cases asked
  obtain ⟨failure, fails⟩ | ⟨path, s₁, current, opened, waits⟩ :=
    (u.bench.run es₁).desk.save_fails_or_waits
  · cases stage.symm.trans fails
  have pending : t.pending = .saving path s₁.working := Stage.waits.inj (stage.symm.trans waits)
  refine ⟨path, s₁, current, opened, pending, fun p => ?_, fun write => ?_, fun same => ?_⟩
  · rw [echo_of_saved finished pending report]
    cases Prod.fst (Disk.write _ path s₁.working) with
    | ok => simp [savedNotice_inj, eq_comm]
    | error error => simp [savedNotice]
  · rw [disk_step_of_save finished pending]
    exact Disk.contents_write write
  · rw [run_append] at same ⊢
    exact (current?_of_generation same _ (run_mem_states _ _)).trans current

theorem notice_names_file_returned_to :
    let b₁ := (Setup.ofFiles [(['a'], ['x']), (['b'], [])]).bench.run
      [.start 0 (.act (.openFile ['a'])), .finish 0, .start 1 (.act (.edit ['y']))]
    let b := b₁.run [.start 2 (.message .save), .start 3 (.act (.openFile ['b'])), .finish 3,
      .start 4 (.act (.select ['a'])), .finish 4]
    b₁.current? = some ['a'] ∧ b.finished? (.finish 2) = some ⟨2, .saving ['a'] ['y'], some .saved⟩ ∧
      (b.step (.finish 2)).1 = .reply (savedNotice ['a']) ∧
      (b.step (.finish 2)).2.disk.contents ['a'] = some ['y'] := by
  have begun : ((Setup.ofFiles [(['a'], ['x']), (['b'], [])]).bench.run
      [.start 0 (.act (.openFile ['a'])), .finish 0, .start 1 (.act (.edit ['y']))]).PendingSince
      (.start 2 (.message .save)) [.start 3 (.act (.openFile ['b'])), .finish 3,
        .start 4 (.act (.select ['a'])), .finish 4] ⟨2, .saving ['a'] ['y'], some .saved⟩ :=
    ⟨⟨.message .save, .save, rfl, rfl, rfl⟩, by decide⟩
  obtain ⟨-, path, s₁, current, -, pending, notice, there, -⟩ :=
    notice_names_current_file (e := .finish 2) begun rfl (by decide)
  obtain ⟨rfl, working⟩ := Pending.saving.inj pending
  rw [← working] at notice there
  exact ⟨current, by decide, (notice ['a']).2 ⟨by decide, by decide⟩, there (by decide)⟩

theorem notice_names_another_file :
    let b₁ := (Setup.ofFiles [(['a'], ['x']), (['b'], [])]).bench.run
      [.start 0 (.message (.openFile ['a'])), .finish 0, .start 1 (.message (.append ['y']))]
    let b := b₁.run [.start 2 (.message .save)]
    let switched := b.run [.start 3 (.message (.openFile ['b'])), .finish 3]
    let removed := b.run [.start 3 (.message (.remove ['a']))]
    b₁.current? = some ['a'] ∧
      switched.finished? (.finish 2) =
        some ⟨2, .saving ['a'] ['x', '\n', 'y'], some .saved⟩ ∧
      (switched.step (.finish 2)).1 = .reply (savedNotice ['b']) ∧
      (switched.step (.finish 2)).2.disk.contents ['a'] = some ['x', '\n', 'y'] ∧
      (switched.step (.finish 2)).2.disk.contents ['b'] = some [] ∧
      (removed.step (.finish 2)).1 = .reply (savedNotice []) := by
  refine ⟨by decide, by decide, rfl, by decide, by decide, rfl⟩

end Bench
end ScriptDesk
