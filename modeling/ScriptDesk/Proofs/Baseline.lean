import ScriptDesk.Proofs.ReadSlot

/-! Where baselines come from.  A text becomes a baseline when it is found on disk or put there, or
out of a conflict, which has kept it since it was found.  So what a session takes to be on disk was
there once, under the path of the session. -/

namespace ScriptDesk

def Effect.baseline? : Effect → Option Text
  | load _ text | refresh text | adopt text | settle _ text => some text
  | endSave written => written
  | _ => none

theorem Effect.baseline_apply {effect : Effect} {path : Text} {before : Option Session}
    {s' : Session} (after : effect.apply path before = some s') :
    effect.baseline? = some s'.baseline ∨
      effect.baseline? = none ∧ ∃ s, before = some s ∧ s.baseline = s'.baseline := by
  have mapped {f : Session → Session} (after : before.map f = some s')
      (kept : ∀ s, (f s).baseline = s.baseline) :
      ∃ s, before = some s ∧ s.baseline = s'.baseline := by
    obtain ⟨s, rfl, rfl⟩ := Option.map_eq_some_iff.1 after
    exact ⟨s, rfl, (kept s).symm⟩
  have taken {f : Session → Session} {text : Text} (after : before.map f = some s')
      (took : ∀ s, (f s).baseline = text) : some text = some s'.baseline := by
    obtain ⟨s, -, rfl⟩ := Option.map_eq_some_iff.1 after
    rw [took]
  cases effect with
  | keep => exact .inr ⟨rfl, s', after, rfl⟩
  | load id content =>
    cases after
    exact .inl rfl
  | refresh content => exact .inl (taken after fun _ => rfl)
  | adopt disk => exact .inl (taken after fun _ => rfl)
  | edit text => exact .inr ⟨rfl, mapped after fun _ => rfl⟩
  | beginSave => exact .inr ⟨rfl, mapped after fun _ => rfl⟩
  | endSave written =>
    cases written with
    | some text => exact .inl (taken after fun _ => rfl)
    | none => exact .inr ⟨rfl, mapped after fun _ => rfl⟩
  | settle r disk =>
    cases r with
    | keepMine => exact .inl (taken after fun _ => rfl)
    | reloadTheirs => exact .inl (taken after fun _ => rfl)
  | remove => cases after

theorem Watch.adopted_of_land {t : Ticket} {read : Except IoError Text} {w : Workspace} {v : Watch}
    {path : Text} (h : (v.land t read w).1 = .adopted path) :
    ∃ disk, read = .ok disk ∧ judge t disk w v = .adopted path := by
  cases read with
  | error e => cases h
  | ok disk =>
    refine ⟨disk, rfl, ?_⟩
    simp only [land, judge_release] at h
    split at h
    · next judged =>
      cases h
      exact judged
    · cases h
    · exact h

namespace Bench

theorem contents_of_baseline? {b : Bench} {e : Event} {path text : Text}
    (taken : (b.effect e path).baseline? = some text) :
    (b.step e).2.disk.contents path = some text ∨
      b.finished? e = none ∧ ∃ c, b.conflict? = some c ∧ c.path = path ∧ c.disk = text := by
  have read {t : BenchTask} {p : Text} (finished : b.finished? e = some t)
      (reads : t.pending.access = .read p) (read : b.disk.read p = .ok text) (same : p = path) :
      (b.step e).2.disk.contents path = some text := by
    rw [disk_step_of_read finished reads, ← same]
    exact Disk.contents_of_read read
  have cause := b.cause e path
  generalize b.effect e path = effect at cause taken
  cases cause with
  | load finished pending found closed =>
    cases taken
    exact .inl (read finished (by rw [pending]) found rfl)
  | refresh finished pending found opened free =>
    cases taken
    exact .inl (read finished (by rw [pending]) found rfl)
  | adopt finished pending found judged =>
    cases taken
    exact .inl (read finished (by rw [pending]) found (Watch.judge_eq_adopted judged).1.symm)
  | written finished pending write =>
    cases taken
    rw [(step_of_finished finished).2, pending]
    exact .inl (Disk.contents_write write)
  | settle asked conflict same opened id revision =>
    cases taken
    refine .inr ⟨?_, _, conflict, same, rfl⟩
    cases finished : b.finished? e with
    | none => rfl
    | some t => simp [asked?_of_finished finished] at asked
  | _ => cases taken

theorem contents_of_raises {b : Bench} {e : Event} {c : Conflict} (raises : b.Raises e c) :
    (b.step e).2.disk.contents c.path = some c.disk := by
  cases raises with
  | intro finished pending read judged =>
    obtain ⟨s, -, -, rfl⟩ := Watch.judge_eq_conflict judged
    rw [disk_step_of_read finished (by rw [pending])]
    exact Disk.contents_of_read read

def OnDisk (past : List Bench) (path text : Text) : Prop :=
  ∃ x ∈ past, x.disk.contents path = some text

theorem OnDisk.later {past : List Bench} {path text : Text} (h : OnDisk past path text)
    (b : Bench) : OnDisk (past ++ [b]) path text := by
  obtain ⟨x, hx, there⟩ := h
  exact ⟨x, List.mem_append_left _ hx, there⟩

theorem OnDisk.now {b : Bench} {path text : Text} (h : b.disk.contents path = some text)
    (past : List Bench) : OnDisk (past ++ [b]) path text :=
  ⟨b, List.mem_append_right _ (List.mem_singleton_self b), h⟩

/-- All that a bench takes to be on disk, or has found there, was there at one of the benches. -/
structure Witnessed (past : List Bench) (b : Bench) : Prop where
  baseline : ∀ path s, b.session? path = some s → OnDisk past path s.baseline
  conflict : ∀ c, b.conflict? = some c → OnDisk past c.path c.disk

theorem witnessed_step {past : List Bench} {b : Bench} (h : Witnessed past b) (e : Event) :
    Witnessed (past ++ [(b.step e).2]) (b.step e).2 := by
  constructor
  · intro path s' after
    rw [session?_step] at after
    rcases Effect.baseline_apply after with taken | ⟨-, s, opened, same⟩
    · rcases contents_of_baseline? taken with now | ⟨-, c, kept, here, text⟩
      · exact .now now past
      · rw [← here, ← text]
        exact (h.conflict c kept).later _
    · rw [← same]
      exact (h.baseline path s opened).later _
  · intro c after
    rcases conflict?_step after with kept | raised
    · exact (h.conflict c kept).later _
    · exact .now (contents_of_raises raised) past

theorem witnessed_run (u : Setup) (es : List Event) :
    Witnessed (u.bench.states es) (u.bench.run es) := by
  induction es using List.reverseRecOn with
  | nil => exact ⟨by rintro path s ⟨⟩, by rintro c ⟨⟩⟩
  | append_singleton es e ih =>
    rw [states_concat, run_concat]
    exact witnessed_step ih e

/-- A landing that is to leave the session at a path with what is on disk: a save wrote, a read
found a session it may overwrite or none, or a check adopted what it read. -/
inductive Syncs (b : Bench) (e : Event) (path : Text) : Prop
  | saved {t : BenchTask} {text : Text} {s : Session} (finished : b.finished? e = some t)
      (pending : t.pending = .saving path text) (write : (b.disk.write path text).1 = .ok ())
      (opened : b.session? path = some s)
  | read {t : BenchTask} {content : Text} (finished : b.finished? e = some t)
      (pending : t.pending = .opening path) (read : b.disk.read path = .ok content)
      (free : ∀ s, b.session? path = some s → s.held = false)
  | adopted {t : BenchTask} {ticket : Ticket} (finished : b.finished? e = some t)
      (pending : t.pending = .checking ticket)
      (verdict : (b.desk.watch.land ticket (b.disk.read ticket.path) b.desk.workspace).1 =
        .adopted path)

theorem contents_of_landing {b : Bench} {e : Event} {t : BenchTask} {path text : Text}
    {effect : Effect} {s' : Session} (finished : b.finished? e = some t)
    (happens : b.effect e path = effect) (taken : effect.baseline? = some text)
    (after : effect.apply path (b.session? path) = some s') :
    ∃ s', (b.step e).2.session? path = some s' ∧
      (b.step e).2.disk.contents path = some s'.baseline := by
  subst happens
  refine ⟨s', (b.session?_step e path).trans after, ?_⟩
  rcases Effect.baseline_apply after with taken' | ⟨none, -⟩
  · rcases contents_of_baseline? taken' with now | ⟨unfinished, -⟩
    · exact now
    · simp [finished] at unfinished
  · simp [none] at taken

theorem contents_of_syncs {b : Bench} {e : Event} {path : Text} (syncs : b.Syncs e path) :
    ∃ s', (b.step e).2.session? path = some s' ∧
      (b.step e).2.disk.contents path = some s'.baseline := by
  cases syncs with
  | @saved t text s finished pending write opened =>
    have ends : b.effect e path = .endSave (some text) := by
      rw [effect_of_finished finished, pending]
      simp [Desk.landEffect, write]
    exact contents_of_landing finished ends rfl (by rw [opened]; rfl)
  | @read t content finished pending read free =>
    have opens : b.effect e path = b.desk.openEffect path content := by
      rw [effect_of_finished finished, pending]
      simp [Desk.landEffect, read]
    unfold Desk.openEffect at opens
    split at opens
    · exact contents_of_landing finished opens rfl rfl
    · next s opened =>
      rw [free s opened, Bool.false_or] at opens
      split at opens
      · next same =>
        -- the session is left as it is, and its baseline is what was read
        refine ⟨s, ?_, ?_⟩
        · rw [session?_step, opens]
          exact opened
        · rw [disk_step_of_read finished (by rw [pending]), eq_of_beq same]
          exact Disk.contents_of_read read
      · exact contents_of_landing finished opens rfl (by rw [session?, opened]; rfl)
  | @adopted t ticket finished pending verdict =>
    obtain ⟨disk, read, judged⟩ := Watch.adopted_of_land verdict
    obtain ⟨rfl, s, fits, -⟩ := Watch.judge_eq_adopted judged
    have adopts : b.effect e ticket.path = .adopt disk := by
      rw [effect_of_finished finished, pending]
      simp [Desk.landEffect, read, judged]
    exact contents_of_landing finished adopts rfl (by rw [session?, fits.opened]; rfl)

/-- Every baseline was on disk in the course of the run, under the path of its session, and so was
what a conflict has kept; and a landing that syncs a session leaves it with what is on disk now. -/
theorem baselines_were_on_disk (u : Setup) (es : List Event) :
    (∀ path s, (u.bench.run es).session? path = some s →
      OnDisk (u.bench.states es) path s.baseline) ∧
    (∀ c, (u.bench.run es).conflict? = some c → OnDisk (u.bench.states es) c.path c.disk) ∧
    ∀ e path, (u.bench.run es).Syncs e path →
      ∃ s, ((u.bench.run es).step e).2.session? path = some s ∧
        ((u.bench.run es).step e).2.disk.contents path = some s.baseline := by
  have witnessed := witnessed_run u es
  refine ⟨witnessed.baseline, witnessed.conflict, ?_⟩
  intro e path syncs
  exact contents_of_syncs syncs

theorem resolved_baseline_was_on_disk :
    let es : List Event := [.start 0 (.act (.openFile ['a'])), .finish 0,
      .start 1 (.act (.edit ['y'])), .insert ['a'] ['z'], .start 2 (.act .check), .finish 2,
      .insert ['a'] ['w'], .start 3 (.act (.resolve .keepMine)), .start 4 (.act .save),
      .start 5 (.act (.edit ['v']))]
    let b := (Setup.ofFiles [(['a'], ['x'])]).bench
    (b.run es).session? ['a'] = some ⟨1, ['a'], ['z'], ['v'], true, 1⟩ ∧
      (b.run es).disk.contents ['a'] = some ['w'] ∧ OnDisk (b.states es) ['a'] ['z'] ∧
      ∃ s, ((b.run es).step (.finish 4)).2.session? ['a'] = some s ∧
        ((b.run es).step (.finish 4)).2.disk.contents ['a'] = some s.baseline := by
  have opened : ((Setup.ofFiles [(['a'], ['x'])]).bench.run
      [.start 0 (.act (.openFile ['a'])), .finish 0, .start 1 (.act (.edit ['y'])),
        .insert ['a'] ['z'], .start 2 (.act .check), .finish 2, .insert ['a'] ['w'],
        .start 3 (.act (.resolve .keepMine)), .start 4 (.act .save),
        .start 5 (.act (.edit ['v']))]).session? ['a'] =
      some ⟨1, ['a'], ['z'], ['v'], true, 1⟩ := by decide
  obtain ⟨baseline, -, synced⟩ := baselines_were_on_disk (Setup.ofFiles [(['a'], ['x'])])
    [.start 0 (.act (.openFile ['a'])), .finish 0, .start 1 (.act (.edit ['y'])),
      .insert ['a'] ['z'], .start 2 (.act .check), .finish 2, .insert ['a'] ['w'],
      .start 3 (.act (.resolve .keepMine)), .start 4 (.act .save), .start 5 (.act (.edit ['v']))]
  refine ⟨opened, by decide, baseline _ _ opened, synced (.finish 4) ['a'] ?_⟩
  exact @Syncs.saved _ _ _ ⟨4, .saving ['a'] ['y'], none⟩ ['y'] _ (by decide) rfl (by decide) opened

end Bench
end ScriptDesk
