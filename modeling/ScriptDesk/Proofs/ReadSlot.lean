import ScriptDesk.Proofs.Lineage

/-! The read slot and the conflict.  The slot is taken exactly while one check is pending, and no
conflict is kept then; so a conflict is never overwritten, and there are two ways out of it. -/

namespace ScriptDesk

def Pending.checks : Pending → Bool
  | .checking _ => true
  | _ => false

def Stage.checks : Stage → Bool
  | .waits pending => pending.checks
  | .done _ => false

def Stage.ofClaim : Except SkipReason Ticket → Stage
  | .ok ticket => .waits (.checking ticket)
  | .error reason => .done (.ok (.verdict (.skipped reason)))

theorem Stage.checks_ofClaim (claimed : Except SkipReason Ticket) :
    (ofClaim claimed).checks = claimed.isOk := by
  cases claimed <;> rfl

namespace Desk

def checks (d : Desk) : Act → Bool
  | .check => true
  | .focus now => regained d.focused now
  | _ => false

theorem begin_of_checks {d : Desk} {a : Act} (h : d.checks a = true) :
    (d.begin a).1 = .ofClaim (d.watch.claim d.workspace).1 ∧
      (d.begin a).2.watch = (d.watch.claim d.workspace).2 := by
  have check (d : Desk) : d.check.1 = .ofClaim (d.watch.claim d.workspace).1 ∧
      d.check.2.watch = (d.watch.claim d.workspace).2 := by
    unfold Desk.check
    rcases d.watch.claim d.workspace with ⟨_ | _, watch⟩ <;> exact ⟨rfl, rfl⟩
  cases a with
  | check => exact check d
  | focus now =>
    have back : regained d.focused now = true := h
    simp only [begin, back, if_true]
    exact check { d with focused := now }
  | _ => cases h

inductive Awaits (d : Desk) (a : Act) : Pending → Prop
  | reading (path : Text) : Awaits d a (.opening path)
  | writing {path : Text} {s : Session} (saves : d.saves path a = true)
      (opened : d.workspace.session? path = some s) (free : s.saving = false) :
      Awaits d a (.saving path s.working)
  | checking {ticket : Ticket} (checks : d.checks a = true) : Awaits d a (.checking ticket)

theorem awaits {d : Desk} {a : Act} {pending : Pending} (h : (d.begin a).1 = .waits pending) :
    d.Awaits a pending := by
  have showing {r : Stage × Workspace} (shows : d.workspace.Shows r) (h : r.1 = .waits pending) :
      d.Awaits a pending := by
    cases shows with
    | reads path =>
      cases h
      exact .reading path
    | _ => cases h
  have saving {path : Text} (saves : d.saves path a = true) : d.Awaits a pending := by
    rw [begin_of_saves saves] at h
    simp only [within, Workspace.savePath] at h
    split at h
    · cases h
    · next s opened =>
      split at h
      · cases h
      · next begun hb =>
        cases h
        exact .writing saves opened (Session.free_of_beginSave?_eq_some hb)
  have checking (act : d.checks a = true) : d.Awaits a pending := by
    rw [(begin_of_checks act).1] at h
    cases claimed : (d.watch.claim d.workspace).1 with
    | error reason => simp [claimed, Stage.ofClaim] at h
    | ok ticket =>
      rw [claimed] at h
      cases h
      exact .checking act
  cases a with
  | openFile path => exact showing (d.workspace.shows_openFile path) h
  | select path =>
    cases known : d.workspace.registry.contains path with
    | true => exact showing (Workspace.shows_select known) h
    | false =>
      change (d.workspace.select path).1 = _ at h
      rw [Workspace.select_of_unknown known] at h
      cases h
  | restore => exact showing d.workspace.shows_restore h
  | save =>
    cases current : d.workspace.current? with
    | none => simp [begin, within, Workspace.save, current] at h
    | some path => exact saving (beq_iff_eq.2 current)
  | savePath path => exact saving (beq_self_eq_true path)
  | check => exact checking rfl
  | focus now =>
    cases act : d.checks (.focus now) with
    | true => exact checking act
    | false =>
      have away : regained d.focused now = false := act
      simp [begin, away] at h
  | _ => cases h

theorem checks_begin {d : Desk} {a : Act} (h : d.checks a = false) :
    (d.begin a).1.checks = false := by
  cases stage : (d.begin a).1 with
  | done r => rfl
  | waits pending =>
    cases awaits stage with
    | checking checks => simp [h] at checks
    | _ => rfl

theorem watch_begin {d : Desk} {a : Act} (h : d.checks a = false) :
    (d.begin a).2.watch =
      match a with
      | .resolve _ => { d.watch with conflict := none }
      | .shutDown => { d.watch with shutDown := true }
      | _ => d.watch := by
  cases a with
  | check => cases h
  | focus now =>
    have away : regained d.focused now = false := h
    simp [begin, away]
  | resolve r => exact Watch.snd_resolve r d.workspace d.watch
  | _ => rfl

end Desk

namespace Bench

def checks (b : Bench) : Nat := b.tasks.countP (·.pending.checks)

theorem countP_eraseP_add {q p : BenchTask → Bool} {ts : List BenchTask} {t : BenchTask}
    (found : ts.find? q = some t) : (ts.eraseP q).countP p + (p t).toNat = ts.countP p := by
  induction ts with
  | nil => cases found
  | cons u ts ih =>
    cases here : q u with
    | true =>
      simp only [List.find?_cons, here, Option.some.injEq] at found
      subst found
      simp only [List.eraseP_cons, here, cond_true, List.countP_cons]
      cases p u <;> rfl
    | false =>
      simp only [List.find?_cons, here] at found
      have := ih found
      simp only [List.eraseP_cons, here, cond_false, List.countP_cons]
      omega

theorem checks_without {b : Bench} {t : BenchTask} (found : b.task? t.id = some t) :
    (b.without t.id).checks + t.pending.checks.toNat = b.checks := countP_eraseP_add found

theorem task?_of_finished {b : Bench} {e : Event} {t : BenchTask} (h : b.finished? e = some t) :
    b.task? t.id = some t := by
  cases e with
  | finish id => exact (id_of_task? h).symm ▸ h
  | _ => cases h

theorem task?_of_dropped {b : Bench} {e : Event} {t : BenchTask} (h : b.dropped? e = some t) :
    b.task? t.id = some t := by
  cases e with
  | drop id => exact (id_of_task? h).symm ▸ h
  | _ => cases h

theorem checks_of_tasks {b b' : Bench} {id : Nat} {report : Option Report} {stage : Stage}
    (tasks : b'.tasks = b.tasks ++ stage.tasks id report) :
    b'.checks = b.checks + stage.checks.toNat := by
  simp only [checks, tasks, List.countP_append]
  cases stage with
  | done r => rfl
  | waits pending => cases pending <;> rfl

inductive Raises (b : Bench) (e : Event) : Conflict → Prop
  | intro {t : BenchTask} {ticket : Ticket} {disk : Text} {c : Conflict}
      (finished : b.finished? e = some t) (pending : t.pending = .checking ticket)
      (read : b.disk.read ticket.path = .ok disk)
      (judged : Watch.judge ticket disk b.desk.workspace b.desk.watch = .conflict c) : Raises b e c

inductive Shift (b : Bench) (e : Event) (b' : Bench) : Prop
  | claims {a : Act} {claim : Except SkipReason Ticket × Watch} (asked : b.asked? e = some a)
      (act : b.desk.checks a = true)
      (claimed : b.desk.watch.Claims b.desk.workspace claim)
      (watch : b'.desk.watch = claim.2)
      (count : b'.checks = b.checks + claim.1.isOk.toNat)
  | resolves {r : Resolution} (asked : b.asked? e = some (.resolve r))
      (watch : b'.desk.watch = { b.desk.watch with conflict := none })
      (count : b'.checks = b.checks)
  | shuts (asked : b.asked? e = some .shutDown)
      (watch : b'.desk.watch = { b.desk.watch with shutDown := true })
      (count : b'.checks = b.checks)
  | raises {c : Conflict} (raised : b.Raises e c)
      (watch : b'.desk.watch = { b.desk.watch.release with conflict := some c })
      (count : b'.checks + 1 = b.checks)
  -- a check lands without a conflict, or is given up
  | frees (idle : b.asked? e = none)
      (watch : b'.desk.watch = b.desk.watch.release)
      (count : b'.checks + 1 = b.checks)
  | keeps (quiet : ∀ a, b.asked? e = some a →
        b.desk.checks a = false ∧ a ≠ .shutDown ∧ ∀ r, a ≠ .resolve r)
      (watch : b'.desk.watch = b.desk.watch)
      (count : b'.checks = b.checks)

theorem shift (b : Bench) (e : Event) : Shift b e (b.step e).2 := by
  have unasked (idle : b.asked? e = none) (a : Act) (asked : b.asked? e = some a) :
      b.desk.checks a = false ∧ a ≠ .shutDown ∧ ∀ r, a ≠ .resolve r := by
    simp [idle] at asked
  cases b.move e with
  | @begins a id job report event asked desk disk tasks =>
    have watch : (b.step e).2.desk.watch = (b.desk.begin a).2.watch := by
      simpa using congrArg Desk.watch desk
    have count := checks_of_tasks tasks
    cases act : b.desk.checks a with
    | true =>
      obtain ⟨stage, claimed⟩ := Desk.begin_of_checks act
      rw [stage, Stage.checks_ofClaim] at count
      exact .claims asked act (b.desk.watch.claims b.desk.workspace) (watch.trans claimed) count
    | false =>
      rw [Desk.checks_begin act] at count
      rw [Desk.watch_begin act] at watch
      cases a with
      | resolve r => exact .resolves asked watch count
      | shutDown => exact .shuts asked watch count
      | _ =>
        refine .keeps ?_ watch count
        intro a' asked'
        cases asked.symm.trans asked'
        exact ⟨act, by simp, by simp⟩
  | @lands t finished desk disk tasks =>
    have watch := congrArg Desk.watch desk
    have count := checks_without (task?_of_finished finished)
    have same : (b.step e).2.checks = (b.without t.id).checks := congrArg (List.countP _) tasks
    have idle := asked?_of_finished finished
    cases pending : t.pending with
    | checking ticket =>
      rw [pending] at watch count
      rcases Watch.watch_land ticket (b.disk.read ticket.path) b.desk.workspace b.desk.watch with
        landed | ⟨disk, c, read, judged, landed⟩
      · exact .frees idle (watch.trans landed) (same ▸ count)
      · exact .raises (.intro finished pending read judged) (watch.trans landed) (same ▸ count)
    | _ =>
      rw [pending] at watch count
      exact .keeps (unasked idle) watch (same ▸ count)
  | @drops t dropped desk disk tasks =>
    have watch := congrArg Desk.watch desk
    have count := checks_without (task?_of_dropped dropped)
    have same : (b.step e).2.checks = (b.without t.id).checks := congrArg (List.countP _) tasks
    have idle := asked?_of_dropped dropped
    cases pending : t.pending with
    | checking ticket =>
      rw [pending] at watch count
      exact .frees idle watch (same ▸ count)
    | _ =>
      rw [pending] at watch count
      exact .keeps (unasked idle) watch (same ▸ count)
  | rests asked finished dropped desk tasks =>
    exact .keeps (unasked asked) (congrArg Desk.watch desk) (congrArg (List.countP _) tasks)

structure OneCheck (b : Bench) : Prop where
  slot : b.checks = b.desk.watch.reading.toNat
  apart : b.desk.watch.reading = true → b.conflict? = none

theorem oneCheck_step (b : Bench) (e : Event) (one : b.OneCheck) : (b.step e).2.OneCheck := by
  obtain ⟨slot, apart⟩ := one
  have held := b.desk.watch.reading.toNat_le
  cases b.shift e with
  | claims asked act claimed watch count =>
    cases claimed with
    | shut shut => exact ⟨by rw [watch]; exact count.trans slot, by rwa [conflict?, watch]⟩
    | blocked up kept => exact ⟨by rw [watch]; exact count.trans slot, by rwa [conflict?, watch]⟩
    | refused reason up lapsed =>
      exact ⟨by rw [watch]; exact count.trans slot, fun _ => by rw [conflict?, watch]⟩
    | granted up lapsed idle current free =>
      rw [idle] at slot
      exact ⟨by rw [watch, count, slot]; rfl, fun _ => by rw [conflict?, watch]⟩
  | resolves asked watch count =>
    exact ⟨by rw [watch]; exact count.trans slot, fun _ => by rw [conflict?, watch]⟩
  | shuts asked watch count =>
    exact ⟨by rw [watch]; exact count.trans slot, by rwa [conflict?, watch]⟩
  | raises raised watch count =>
    have free : (b.step e).2.desk.watch.reading = false := by rw [watch]; rfl
    exact ⟨by rw [free, Bool.toNat_false]; omega, by simp [free]⟩
  | frees idle watch count =>
    have free : (b.step e).2.desk.watch.reading = false := by rw [watch]; rfl
    exact ⟨by rw [free, Bool.toNat_false]; omega, by simp [free]⟩
  | keeps quiet watch count =>
    exact ⟨by rw [watch]; exact count.trans slot, by rwa [conflict?, watch]⟩

theorem oneCheck (u : Setup) (es : List Event) : (u.bench.run es).OneCheck :=
  invariant (fun _ => ⟨rfl, fun _ => rfl⟩) oneCheck_step u es

theorem Raises.unasked {b : Bench} {e : Event} {c : Conflict} (raises : b.Raises e c) :
    b.asked? e = none := by
  cases raises with
  | intro finished pending read judged => exact asked?_of_finished finished

theorem Raises.found {b : Bench} {e : Event} {c : Conflict} (raises : b.Raises e c) :
    ∃ s, (b.step e).2.session? c.path = some s ∧ s.id = c.session ∧ s.revision = c.revision := by
  cases raises with
  | intro finished pending read judged =>
    obtain ⟨s, fits, -, rfl⟩ := Watch.judge_eq_conflict judged
    refine ⟨s, ?_, rfl, rfl⟩
    rw [session?_step, effect_of_finished finished, pending]
    simp only [Desk.landEffect, read, judged]
    exact fits.opened

theorem conflict?_step {b : Bench} {e : Event} {c : Conflict}
    (after : (b.step e).2.conflict? = some c) : b.conflict? = some c ∨ b.Raises e c := by
  rw [conflict?] at after
  cases b.shift e with
  | claims asked act claimed watch count =>
    rw [watch] at after
    cases claimed with
    | shut shut => exact .inl after
    | blocked up kept => exact .inl after
    | refused reason up lapsed => cases after
    | granted up lapsed idle current free => cases after
  | resolves asked watch count =>
    rw [watch] at after
    cases after
  | raises raised watch count =>
    rw [watch] at after
    cases after
    exact .inr raised
  | shuts asked watch count => exact .inl (by rwa [watch] at after)
  | frees idle watch count => exact .inl (by rwa [watch] at after)
  | keeps quiet watch count => exact .inl (by rwa [watch] at after)

/-- The ways out of a conflict: it is resolved, or a check is made after its session is gone. -/
def Clears (b : Bench) (e : Event) (c : Conflict) : Prop :=
  (∃ r, b.asked? e = some (.resolve r)) ∨
    (∃ a, b.asked? e = some a ∧ b.desk.checks a = true) ∧ b.desk.watch.shutDown = false ∧
      ¬ b.Holds c.path c.session

theorem conflict?_step_of_some {b : Bench} {c : Conflict} (one : b.OneCheck)
    (kept : b.conflict? = some c) (e : Event) :
    (b.step e).2.conflict? = some c ∧ ¬ b.Clears e c ∨
      (b.step e).2.conflict? = none ∧ b.Clears e c := by
  have idle : b.checks = 0 := by
    rw [one.slot]
    cases reading : b.desk.watch.reading with
    | false => rfl
    | true => cases kept.symm.trans (one.apart reading)
  have kept' : b.desk.watch.conflict = some c := kept
  cases b.shift e with
  | @claims a claim asked act claimed watch count =>
    have no_resolve (r : Resolution) : a ≠ .resolve r := by
      rintro rfl
      cases act
    simp only [conflict?, watch, Clears, asked]
    cases claimed with
    | shut shut => exact .inl ⟨kept, by simp [no_resolve, shut]⟩
    | blocked up holds =>
      rw [kept', Option.any_some, Watch.applies_eq_true] at holds
      exact .inl ⟨kept, by simp [no_resolve, up]; exact fun _ => holds⟩
    | refused reason up lapsed =>
      rw [kept', Option.any_some, ← Bool.not_eq_true, Watch.applies_eq_true] at lapsed
      exact .inr ⟨rfl, .inr ⟨⟨a, rfl, act⟩, up, lapsed⟩⟩
    | granted up lapsed =>
      rw [kept', Option.any_some, ← Bool.not_eq_true, Watch.applies_eq_true] at lapsed
      exact .inr ⟨rfl, .inr ⟨⟨a, rfl, act⟩, up, lapsed⟩⟩
  | resolves asked watch count => exact .inr ⟨by rw [conflict?, watch], .inl ⟨_, asked⟩⟩
  | shuts asked watch count =>
    refine .inl ⟨by rw [conflict?, watch]; exact kept, ?_⟩
    simp [Clears, asked, Desk.checks]
  | raises raised watch count => omega
  | frees idle watch count => omega
  | keeps quiet watch count =>
    refine .inl ⟨by rw [conflict?, watch]; exact kept, ?_⟩
    rintro (⟨r, asked⟩ | ⟨⟨a, asked, act⟩, -⟩)
    · exact (quiet _ asked).2.2 r rfl
    · simp [(quiet a asked).1] at act

structure RaisedSince (b : Bench) (e : Event) (es : List Event) (c : Conflict) : Prop where
  raised : b.Raises e c
  kept : ∀ x ∈ (b.step e).2.states es, x.conflict? = some c

theorem raisedSince_of_conflict? {u : Setup} {es : List Event} {c : Conflict}
    (kept : (u.bench.run es).conflict? = some c) :
    ∃ es₁ e es₂, es = es₁ ++ e :: es₂ ∧ (u.bench.run es₁).RaisedSince e es₂ c := by
  have start : u.bench.conflict? ≠ some c := by
    simp [Setup.bench, conflict?, Desk.ofSettings, Watch.idle]
  obtain ⟨es₁, e, es₂, rfl, not_yet, since⟩ := exists_since (·.conflict? = some c) start kept
  have first : ((u.bench.run es₁).step e).2.conflict? = some c := since _ (self_mem_states _ es₂)
  exact ⟨es₁, e, es₂, rfl, (conflict?_step first).resolve_left not_yet, since⟩

theorem given_of_raises {u : Setup} {es : List Event} {e : Event} {c : Conflict}
    (raised : (u.bench.run es).Raises e c) : c.session < ((u.bench.run es).step e).2.nextId := by
  obtain ⟨s, opened, id, -⟩ := raised.found
  have given := idsGiven u (es ++ [e]) c.path s
  rw [run_concat] at given
  exact id ▸ given opened

theorem past_of_conflict? {u : Setup} {es : List Event} {c : Conflict}
    (kept : (u.bench.run es).conflict? = some c) :
    (u.bench.run es).Past c.path c.session c.revision := by
  obtain ⟨es₁, e, es₂, rfl, raised, -⟩ := raisedSince_of_conflict? kept
  obtain ⟨s, opened, -, revision⟩ := raised.found
  rw [run_append, run_cons]
  refine past_run es₂ ⟨given_of_raises raised, ?_⟩
  rintro s' opened' -
  cases opened.symm.trans opened'
  exact Nat.le_of_eq revision.symm

theorem effect_of_resolve {b : Bench} {e : Event} {r : Resolution} {c : Conflict} {s : Session}
    (asked : b.asked? e = some (.resolve r)) (kept : b.conflict? = some c)
    (opened : b.session? c.path = some s) (id : s.id = c.session)
    (revision : s.revision = c.revision) : b.effect e c.path = .settle r c.disk := by
  have kept' : b.desk.watch.conflict = some c := kept
  have opened' : b.desk.workspace.session? c.path = some s := opened
  rw [effect_of_asked asked]
  simp [Desk.beginEffect, kept', opened', id, revision]

theorem past_step_of_clears {b : Bench} {e : Event} {c : Conflict} (kept : b.conflict? = some c)
    (past : b.Past c.path c.session c.revision) (clears : b.Clears e c) :
    (b.step e).2.Past c.path c.session (c.revision + 1) := by
  obtain ⟨given, reached⟩ := past
  by_cases same : ∃ s, b.session? c.path = some s ∧ s.id = c.session ∧ s.revision = c.revision
  · obtain ⟨s, opened, id, revision⟩ := same
    rcases clears with ⟨r, asked⟩ | ⟨-, -, gone⟩
    · have settled := effect_of_resolve asked kept opened id revision
      refine ⟨Nat.lt_of_lt_of_le given (b.nextId_le_step e), ?_⟩
      rintro s' after -
      rcases session_step e opened with ⟨-, closed⟩ | ⟨s₁, after₁, -, revision₁, -⟩
      · simp [closed] at after
      · cases after.symm.trans after₁
        rw [settled] at revision₁
        exact Nat.le_of_eq (revision ▸ revision₁.symm)
    · exact absurd ⟨s, opened, id⟩ gone
  · refine past_step e ⟨given, ?_⟩
    intro s opened id
    have := reached s opened id
    have moved : s.revision ≠ c.revision := fun revision => same ⟨s, opened, id, revision⟩
    omega

theorem conflict?_run_ne {b : Bench} {c : Conflict} (es : List Event)
    (past : b.Past c.path c.session (c.revision + 1)) (gone : b.conflict? ≠ some c) :
    (b.run es).conflict? ≠ some c := by
  induction es generalizing b with
  | nil => exact gone
  | cons e es ih =>
    have past' := past_step e past
    refine ih past' ?_
    intro after
    rcases conflict?_step after with before | raised
    · exact gone before
    · obtain ⟨s, opened, id, revision⟩ := raised.found
      have := past'.2 s opened id
      omega

/-- The slot is taken exactly while one check is pending, and then there is no conflict.  A conflict
that is there stays as it is until it is cleared, and does not come back. -/
theorem one_check_one_conflict (u : Setup) (es : List Event) :
    ((u.bench.run es).desk.watch.reading = true ↔ (u.bench.run es).checks = 1) ∧
    (u.bench.run es).checks ≤ 1 ∧
    ((u.bench.run es).desk.watch.reading = true → (u.bench.run es).conflict? = none) ∧
    ∀ c, (u.bench.run es).conflict? = some c → ∀ e,
      ((u.bench.run es).step e).2.conflict? = some c ∧ ¬ (u.bench.run es).Clears e c ∨
      ((u.bench.run es).step e).2.conflict? = none ∧ (u.bench.run es).Clears e c ∧
        ∀ es', (((u.bench.run es).step e).2.run es').conflict? ≠ some c := by
  have one := oneCheck u es
  refine ⟨?_, ?_, one.apart, ?_⟩
  · rw [one.slot]
    cases (u.bench.run es).desk.watch.reading <;> decide
  · rw [one.slot]
    exact Bool.toNat_le _
  · intro c kept e
    rcases conflict?_step_of_some one kept e with stays | ⟨gone, clears⟩
    · exact .inl stays
    · have past := past_step_of_clears kept (past_of_conflict? kept) clears
      exact .inr ⟨gone, clears, fun es' => conflict?_run_ne es' past (by simp [gone])⟩

theorem resolved_conflict_stays_away :
    let b := (Setup.ofFiles [(['a'], ['x'])]).bench.run
      [.start 0 (.act (.openFile ['a'])), .finish 0, .start 1 (.act (.edit ['y'])),
        .insert ['a'] ['z'], .start 2 (.act .check), .finish 2]
    let e := Event.start 3 (.act (.resolve .keepMine))
    b.conflict? = some ⟨['a'], 1, ['z'], 0⟩ ∧ (b.step e).2.conflict? = none ∧
      ∀ es', ((b.step e).2.run es').conflict? ≠ some ⟨['a'], 1, ['z'], 0⟩ := by
  have kept : ((Setup.ofFiles [(['a'], ['x'])]).bench.run
      [.start 0 (.act (.openFile ['a'])), .finish 0, .start 1 (.act (.edit ['y'])),
        .insert ['a'] ['z'], .start 2 (.act .check), .finish 2]).conflict? =
      some ⟨['a'], 1, ['z'], 0⟩ := by decide
  obtain ⟨-, -, -, leaves⟩ := one_check_one_conflict (Setup.ofFiles [(['a'], ['x'])])
    [.start 0 (.act (.openFile ['a'])), .finish 0, .start 1 (.act (.edit ['y'])),
      .insert ['a'] ['z'], .start 2 (.act .check), .finish 2]
  refine ⟨kept, ?_⟩
  rcases leaves _ kept (.start 3 (.act (.resolve .keepMine))) with ⟨-, stays⟩ | ⟨gone, -, away⟩
  · exact absurd (.inl ⟨_, rfl⟩) stays
  · exact ⟨gone, away⟩

end Bench
end ScriptDesk
