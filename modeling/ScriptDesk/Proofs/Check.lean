import ScriptDesk.Proofs.ReadSlot

namespace ScriptDesk
namespace Bench

theorem shutDown_step (b : Bench) (e : Event) :
    (b.step e).2.desk.watch.shutDown = true ↔
      b.desk.watch.shutDown = true ∨ b.asked? e = some .shutDown := by
  cases b.shift e with
  | @claims a claim asked act claimed watch count =>
    have other : a ≠ .shutDown := by
      rintro rfl
      cases act
    cases claimed <;> simp [watch, asked, other]
  | resolves asked watch count => simp [watch, asked]
  | shuts asked watch count => simp [watch, asked]
  | raises raised watch count => simp [watch, raised.unasked, Watch.release]
  | frees idle watch count => simp [watch, idle, Watch.release]
  | keeps quiet watch count =>
    have unasked : b.asked? e ≠ some .shutDown := fun asked => (quiet _ asked).2.1 rfl
    simp [watch, unasked]

theorem shutDown_run (b : Bench) (es : List Event) :
    (b.run es).desk.watch.shutDown = true ↔
      b.desk.watch.shutDown = true ∨ ∃ x ∈ b.steps es, x.1.asked? x.2 = some .shutDown := by
  induction es generalizing b with
  | nil => simp [steps]
  | cons e es ih => simp [steps, ih, shutDown_step, or_assoc]

theorem claimed_of_begins {b : Bench} {e : Event} {t : BenchTask} {ticket : Ticket}
    (begins : b.Begins e t) (pending : t.pending = .checking ticket) :
    ∃ s, b.currentSession? = some s ∧ ticket = ⟨s.path, b.generation, s.revision⟩ := by
  obtain ⟨job, a, -, -, stage⟩ := begins
  have act : b.desk.checks a = true := by
    cases pending ▸ Desk.awaits stage with
    | checking checks => exact checks
  rw [(Desk.begin_of_checks act).1, pending] at stage
  have claimed := b.desk.watch.claims b.desk.workspace
  generalize b.desk.watch.claim b.desk.workspace = claim at stage claimed
  cases claimed with
  | @granted s up lapsed idle current free =>
    cases stage
    exact ⟨s, current, rfl⟩
  | _ => cases stage

def Alters (b : Bench) (e : Event) : Prop :=
  (∃ path, (b.step e).2.session? path ≠ b.session? path) ∨ (b.step e).2.conflict? ≠ b.conflict?

theorem conflict?_of_check {u : Setup} {es : List Event} {e : Event} {t : BenchTask}
    {ticket : Ticket} (finished : (u.bench.run es).finished? e = some t)
    (pending : t.pending = .checking ticket) : (u.bench.run es).conflict? = none := by
  have one := oneCheck u es
  have count := checks_without (task?_of_finished finished)
  apply one.apart
  cases reading : (u.bench.run es).desk.watch.reading with
  | true => rfl
  | false =>
    rw [one.slot, reading, pending] at count
    simp [Pending.checks] at count

theorem watch_step_of_check {b : Bench} {e : Event} {t : BenchTask} {ticket : Ticket}
    (finished : b.finished? e = some t) (pending : t.pending = .checking ticket) :
    (b.step e).2.desk.watch =
      (b.desk.watch.land ticket (b.disk.read ticket.path) b.desk.workspace).2.2 := by
  rw [← Desk.watch_flushed, (step_of_finished finished).1, pending]
  rfl

theorem session?_step_of_check {b : Bench} {e : Event} {t : BenchTask} {ticket : Ticket}
    (finished : b.finished? e = some t) (pending : t.pending = .checking ticket) {path : Text}
    (other : path ≠ ticket.path) : (b.step e).2.session? path = b.session? path := by
  rw [session?_step, effect_of_finished finished, pending]
  simp only [Desk.landEffect]
  split
  · split
    · next judged =>
      rw [(Watch.judge_eq_adopted judged).1, if_neg (Ne.symm other)]
      rfl
    · rfl
  · rfl

theorem fits_of_alters {b : Bench} {e : Event} {t : BenchTask} {ticket : Ticket}
    (finished : b.finished? e = some t) (pending : t.pending = .checking ticket)
    (alters : b.Alters e) : ∃ s, Watch.Fits ticket b.desk.workspace b.desk.watch s := by
  have judged : ∃ disk, b.disk.read ticket.path = .ok disk ∧
      Watch.judge ticket disk b.desk.workspace b.desk.watch ≠ .discarded := by
    rcases alters with ⟨path, changed⟩ | changed
    · rw [session?_step, effect_of_finished finished, pending] at changed
      simp only [Desk.landEffect] at changed
      split at changed
      · next disk read =>
        refine ⟨disk, read, fun discarded => ?_⟩
        rw [discarded] at changed
        exact changed rfl
      · exact absurd rfl changed
    · rw [conflict?, watch_step_of_check finished pending] at changed
      rcases Watch.watch_land ticket (b.disk.read ticket.path) b.desk.workspace b.desk.watch with
        landed | ⟨disk, c, read, judged, -⟩
      · rw [landed] at changed
        exact absurd rfl changed
      · exact ⟨disk, read, by simp [judged]⟩
  obtain ⟨disk, -, kept⟩ := judged
  obtain ⟨s, fits, -⟩ := Watch.fits_of_judge kept
  exact ⟨s, fits⟩

/-- The current session of a bench, and the session it has become after some events: its path was
current all along, and neither its id nor its baseline is another. -/
structure SameSince (b : Bench) (es : List Event) (s₁ s : Session) : Prop where
  claimed : b.currentSession? = some s₁
  current : ∀ x ∈ b.states es, x.current? = some s₁.path
  opened : (b.run es).session? s₁.path = some s
  id : s.id = s₁.id
  baseline : s.baseline = s₁.baseline

theorem sameSince_of_fits {b : Bench} {es : List Event} {s₁ s : Session}
    (claimed : b.currentSession? = some s₁)
    (fits : Watch.Fits ⟨s₁.path, b.generation, s₁.revision⟩ (b.run es).desk.workspace
      (b.run es).desk.watch s) : b.SameSince es s₁ s := by
  obtain ⟨current, opened⟩ := Workspace.currentSession?_eq_some.1 claimed
  have stays : ∀ x ∈ b.states es, x.current? = some s₁.path := fun x hx =>
    (current?_of_generation fits.generation x hx).trans current
  obtain ⟨s', opened', id, baseline⟩ := session_run_of_current opened stays
  cases opened'.symm.trans fits.opened
  exact ⟨claimed, stays, opened', id, baseline fits.revision⟩

def Checks (b : Bench) (e : Event) : Prop :=
  (∃ a, b.asked? e = some a ∧ b.desk.checks a = true) ∨
    ∃ t ticket, b.finished? e = some t ∧ t.pending = .checking ticket

theorem not_alters_of_shutDown {b : Bench} {e : Event} (down : b.desk.watch.shutDown = true)
    (checks : b.Checks e) : ¬ b.Alters e := by
  intro alters
  rcases checks with ⟨a, asked, act⟩ | ⟨t, ticket, finished, pending⟩
  · have idle (path : Text) : b.effect e path = .keep := by
      rw [effect_of_asked asked]
      cases a with
      | check => rfl
      | focus now => rfl
      | _ => cases act
    have kept : (b.step e).2.desk.watch = b.desk.watch := by
      rw [← Desk.watch_flushed, (step_of_asked asked).1, Desk.watch_flushed,
        (Desk.begin_of_checks act).2]
      simp [Watch.claim, down]
    rcases alters with ⟨path, changed⟩ | changed
    · rw [session?_step, idle] at changed
      exact changed rfl
    · exact changed (congrArg Watch.conflict kept)
  · obtain ⟨s, fits⟩ := fits_of_alters finished pending alters
    simp [fits.up] at down

/-- A check that changes something when it lands finds the session it was taken for as it was then,
and changes no other; once the desk is shut down no check changes anything. -/
theorem check_lands_where_taken (u : Setup) (es : List Event) (e : Event) :
    (∀ t ticket, (u.bench.run es).finished? e = some t → t.pending = .checking ticket →
      (u.bench.run es).Alters e →
        ∃ es₁ e₁ es₂ s₁ s, es = es₁ ++ e₁ :: es₂ ∧
          (u.bench.run es₁).PendingSince e₁ es₂ t ∧
          (u.bench.run es₁).SameSince (e₁ :: es₂) s₁ s ∧ s.saving = false ∧
          (∀ x ∈ u.bench.steps es, x.1.asked? x.2 ≠ some .shutDown) ∧
          (∀ path, path ≠ s₁.path →
            ((u.bench.run es).step e).2.session? path = (u.bench.run es).session? path) ∧
          ∀ c, ((u.bench.run es).step e).2.conflict? = some c →
            c.path = s₁.path ∧ c.session = s.id) ∧
    ((∃ x ∈ u.bench.steps es, x.1.asked? x.2 = some .shutDown) → (u.bench.run es).Checks e →
      ¬ (u.bench.run es).Alters e) := by
  constructor
  · intro t ticket finished pending alters
    obtain ⟨s, fits⟩ := fits_of_alters finished pending alters
    obtain ⟨es₁, e₁, es₂, rfl, since⟩ :=
      pendingSince_of_mem (mem_of_task? (task?_of_finished finished))
    obtain ⟨s₁, claimed, rfl⟩ := claimed_of_begins since.begun pending
    have fits' := fits
    rw [run_append] at fits'
    refine ⟨es₁, e₁, es₂, s₁, s, rfl, since, sameSince_of_fits claimed fits', fits.free, ?_, ?_, ?_⟩
    · intro x hx asked
      have down := (shutDown_run u.bench (es₁ ++ e₁ :: es₂)).2 (.inr ⟨x, hx, asked⟩)
      simp [fits.up] at down
    · intro path other
      exact session?_step_of_check finished pending other
    · intro c raised
      rcases conflict?_step raised with before | ⟨finished', pending', read, judged⟩
      · simp [conflict?_of_check finished pending] at before
      · cases finished.symm.trans finished'
        cases pending.symm.trans pending'
        obtain ⟨s', fits', -, rfl⟩ := Watch.judge_eq_conflict judged
        cases fits.opened.symm.trans fits'.opened
        exact ⟨rfl, rfl⟩
  · intro called checks
    exact not_alters_of_shutDown ((shutDown_run u.bench es).2 (.inr called)) checks

theorem adopted_where_taken :
    let es : List Event := [.start 0 (.act (.openFile ['a'])), .finish 0, .insert ['a'] ['z'],
      .start 1 (.act .check), .start 2 (.act (.select ['a']))]
    let b := (Setup.ofFiles [(['a'], ['x'])]).bench
    (b.run (es ++ [.finish 1])).session? ['a'] = some ⟨1, ['a'], ['z'], ['z'], false, 1⟩ ∧
      ∃ es₁ e₁ es₂ s₁ s, es = es₁ ++ e₁ :: es₂ ∧ (b.run es₁).SameSince (e₁ :: es₂) s₁ s := by
  have after : (((Setup.ofFiles [(['a'], ['x'])]).bench.run
      [.start 0 (.act (.openFile ['a'])), .finish 0, .insert ['a'] ['z'], .start 1 (.act .check),
        .start 2 (.act (.select ['a']))]).step (.finish 1)).2.session? ['a'] =
      some ⟨1, ['a'], ['z'], ['z'], false, 1⟩ := by decide
  refine ⟨after, ?_⟩
  obtain ⟨lands, -⟩ := check_lands_where_taken (Setup.ofFiles [(['a'], ['x'])])
    [.start 0 (.act (.openFile ['a'])), .finish 0, .insert ['a'] ['z'], .start 1 (.act .check),
      .start 2 (.act (.select ['a']))] (.finish 1)
  obtain ⟨es₁, e₁, es₂, s₁, s, split, -, same, -⟩ :=
    lands ⟨1, .checking ⟨['a'], 1, 0⟩, none⟩ ⟨['a'], 1, 0⟩ (by decide) rfl
      (.inl ⟨['a'], by rw [after]; decide⟩)
  exact ⟨es₁, e₁, es₂, s₁, s, split, same⟩

end Bench
end ScriptDesk
