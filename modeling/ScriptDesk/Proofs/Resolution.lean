import ScriptDesk.Proofs.Answer
import ScriptDesk.Proofs.ReadSlot

/-! Conflicts are settled against the state they were found in.  An id and a revision are compared
when a conflict is resolved; over any run that tells whether the session has stayed open and its
baseline was left alone since. -/

namespace ScriptDesk

def Resolution.working (mine disk : Text) : Resolution → Text
  | .keepMine => mine
  | .reloadTheirs => disk

theorem Watch.settle_eq (r : Resolution) (disk : Text) (s : Session) :
    settle r disk s =
      { s with
        baseline := disk
        working := r.working s.working disk
        revision := s.revision + 1 } := by
  cases r <;> rfl

namespace Bench

/-- The session a conflict was found for has stayed open during a run, and its baseline was not
replaced, not even by an equal text. -/
structure Untouched (b : Bench) (es : List Event) (c : Conflict) : Prop where
  held : ∀ x ∈ b.states es, x.Holds c.path c.session
  same : ∀ x ∈ b.steps es, (x.1.effect x.2 c.path).rebases = false

theorem rebases_eq_zero {b : Bench} {es : List Event} {path : Text} :
    b.rebases es path = 0 ↔ ∀ x ∈ b.steps es, (x.1.effect x.2 path).rebases = false := by
  simp [rebases, List.countP_eq_zero]

theorem not_holds_of_removed {b : Bench} {es : List Event} {path : Text} {id : Nat}
    (given : id < b.nextId) (removed : ∃ x ∈ b.steps es, x.1.asked? x.2 = some (.remove path)) :
    ¬ (b.run es).Holds path id := by
  obtain ⟨x, hx, asked⟩ := removed
  obtain ⟨es₁, es₂, rfl, here⟩ := exists_of_mem_steps hx
  rintro ⟨s, opened, same⟩
  -- no revision is high enough for a session that is not there
  have past : (x.1.step x.2).2.Past path id (s.revision + 1) := by
    have given₁ : b.Past path id 0 := ⟨given, fun _ _ _ => Nat.zero_le _⟩
    have before := (past_run es₁ given₁).1
    rw [← here] at before
    refine ⟨Nat.lt_of_lt_of_le before (x.1.nextId_le_step x.2), ?_⟩
    intro s' opened'
    simp [closed_of_remove asked] at opened'
  rw [run_append, run_cons, ← here] at opened
  have := (past_run es₂ past).2 s opened same
  omega

theorem untouched_iff {b : Bench} {es : List Event} {c : Conflict} (given : c.session < b.nextId)
    (found : ∃ s, b.session? c.path = some s ∧ s.id = c.session ∧ s.revision = c.revision) :
    b.Untouched es c ↔
      ∃ s, (b.run es).session? c.path = some s ∧ s.id = c.session ∧ s.revision = c.revision := by
  obtain ⟨s, opened, id, revision⟩ := found
  constructor
  · rintro ⟨held, same⟩
    rcases session_run es opened with ⟨x, hx, removed⟩ | ⟨-, s', opened', id', revision', -⟩
    · obtain ⟨s', opened', -⟩ := held _ (step_mem_states hx)
      simp [closed_of_remove removed] at opened'
    · rw [rebases_eq_zero.2 same] at revision'
      exact ⟨s', opened', id'.trans id, revision'.trans revision⟩
  · rintro ⟨s₁, opened₁, id₁, revision₁⟩
    rcases session_run es opened with removed | ⟨stays, s', opened', -, revision', -⟩
    · exact absurd ⟨s₁, opened₁, id₁⟩ (not_holds_of_removed given removed)
    · cases opened'.symm.trans opened₁
      exact ⟨id ▸ stays, rebases_eq_zero.1 (by omega)⟩

def resolution (b : Bench) (r : Resolution) : Except Failure (Option Session) :=
  (b.desk.watch.resolve r b.desk.workspace).1

theorem resolution_of_conflict {b : Bench} {c : Conflict} (r : Resolution)
    (kept : b.conflict? = some c) :
    (∃ s, b.session? c.path = some s ∧ s.id = c.session ∧ s.revision = c.revision ∧
      b.resolution r = .ok (some (Watch.settle r c.disk s))) ∨
    (¬ ∃ s, b.session? c.path = some s ∧ s.id = c.session ∧ s.revision = c.revision) ∧
      b.resolution r = .ok none := by
  have kept' : b.desk.watch.conflict = some c := kept
  unfold resolution Watch.resolve session?
  rw [kept']
  cases opened : b.desk.workspace.session? c.path with
  | none => exact .inr ⟨by simp, by simp [opened]⟩
  | some s =>
    by_cases same : s.id = c.session ∧ s.revision = c.revision
    · exact .inl ⟨s, rfl, same.1, same.2, by simp [opened, same]⟩
    · refine .inr ⟨?_, by simp [opened, same]⟩
      rintro ⟨s', ⟨rfl⟩, id, revision⟩
      exact same ⟨id, revision⟩

theorem session?_step_of_resolve {b : Bench} {e : Event} {r : Resolution} {c : Conflict}
    (asked : b.asked? e = some (.resolve r)) (kept : b.conflict? = some c) {path : Text}
    (other : ∀ s, b.session? path = some s → c.path = path → s.id = c.session →
      s.revision ≠ c.revision) : (b.step e).2.session? path = b.session? path := by
  have kept' : b.desk.watch.conflict = some c := kept
  rw [session?_step, effect_of_asked asked]
  simp only [Desk.beginEffect, kept']
  cases opened : b.desk.workspace.session? path with
  | none => rfl
  | some s =>
    have unsettled : ¬ (c.path = path ∧ s.id = c.session ∧ s.revision = c.revision) :=
      fun same => other s opened same.1 same.2.1 same.2.2
    simp only [if_neg unsettled]
    rfl

theorem step_of_no_conflict {b : Bench} {e : Event} {r : Resolution}
    (flushed : b.desk.workspace.outbox = []) (asked : b.asked? e = some (.resolve r))
    (unset : b.conflict? = none) : (b.step e).2 = b := by
  have unset' : b.desk.watch.conflict = none := unset
  refine step_of_idle (r := .error .noConflict) flushed asked ?_
  simp [Desk.begin, Watch.resolve, unset', Except.map]

/-- A conflict is applied to its session if and only if the session was left alone since the
conflict was raised.  Either way the conflict is gone, and no other session is changed. -/
theorem resolution_against_its_state (u : Setup) (es : List Event) (e : Event) {r : Resolution}
    (asked : (u.bench.run es).asked? e = some (.resolve r)) :
    (u.bench.run es).Answers e
      (((u.bench.run es).resolution r).map fun s => (s.map Outcome.session).getD .nothing) ∧
    ((u.bench.run es).conflict? = none →
      (u.bench.run es).resolution r = .error .noConflict ∧
        ((u.bench.run es).step e).2 = u.bench.run es) ∧
    ∀ c, (u.bench.run es).conflict? = some c →
      ((u.bench.run es).step e).2.conflict? = none ∧
      (∀ path, path ≠ c.path →
        ((u.bench.run es).step e).2.session? path = (u.bench.run es).session? path) ∧
      (∃ es₁ e₁ es₂, es = es₁ ++ e₁ :: es₂ ∧ (u.bench.run es₁).RaisedSince e₁ es₂ c ∧
        ((∃ s', (u.bench.run es).resolution r = .ok (some s')) ↔
          ((u.bench.run es₁).step e₁).2.Untouched es₂ c)) ∧
      (∀ s', (u.bench.run es).resolution r = .ok (some s') →
        ((u.bench.run es).step e).2.session? c.path = some s' ∧
        ∃ s, (u.bench.run es).session? c.path = some s ∧
          s' = { s with
            baseline := c.disk
            working := r.working s.working c.disk
            revision := s.revision + 1 }) ∧
      ((∀ s', (u.bench.run es).resolution r ≠ .ok (some s')) →
        (u.bench.run es).resolution r = .ok none ∧
          ∀ path, ((u.bench.run es).step e).2.session? path = (u.bench.run es).session? path) := by
  refine ⟨answers_of_done asked rfl rfl, ?_, ?_⟩
  · intro unset
    have unset' : (u.bench.run es).desk.watch.conflict = none := unset
    refine ⟨?_, step_of_no_conflict (outbox_run u es) asked unset⟩
    simp [resolution, Watch.resolve, unset']
  · intro c kept
    have gone : ((u.bench.run es).step e).2.conflict? = none := by
      rcases conflict?_step_of_some (oneCheck u es) kept e with ⟨-, stays⟩ | ⟨gone, -⟩
      · exact absurd (.inl ⟨r, asked⟩) stays
      · exact gone
    obtain ⟨es₁, e₁, es₂, split, since⟩ := raisedSince_of_conflict? kept
    have here : u.bench.run es = ((u.bench.run es₁).step e₁).2.run es₂ := by
      rw [split, run_append, run_cons]
    have untouched := @untouched_iff _ es₂ c (given_of_raises since.raised) since.raised.found
    rw [← here] at untouched
    have others (path : Text) (other : path ≠ c.path) :
        ((u.bench.run es).step e).2.session? path = (u.bench.run es).session? path :=
      session?_step_of_resolve asked kept fun _ _ same => absurd same.symm other
    rcases resolution_of_conflict r kept with ⟨s, opened, id, revision, applied⟩ | ⟨moved, refused⟩
    · have settled : ((u.bench.run es).step e).2.session? c.path =
          some (Watch.settle r c.disk s) := by
        rw [session?_step, effect_of_resolve asked kept opened id revision, opened]
        rfl
      refine ⟨gone, others, ⟨es₁, e₁, es₂, split, since, ?_⟩, ?_, ?_⟩
      · exact ⟨fun _ => untouched.2 ⟨s, opened, id, revision⟩, fun _ => ⟨_, applied⟩⟩
      · intro s' applied'
        cases applied.symm.trans applied'
        exact ⟨settled, s, opened, Watch.settle_eq r c.disk s⟩
      · intro unapplied
        exact absurd applied (unapplied _)
    · refine ⟨gone, others, ⟨es₁, e₁, es₂, split, since, ?_⟩, ?_, ?_⟩
      · constructor
        · rintro ⟨s', applied⟩
          cases refused.symm.trans applied
        · intro same
          exact absurd (untouched.1 same) moved
      · intro s' applied
        cases refused.symm.trans applied
      · intro _
        refine ⟨refused, fun path => session?_step_of_resolve asked kept ?_⟩
        rintro s opened rfl id revision
        exact moved ⟨s, opened, id, revision⟩

theorem resolved_untouched :
    let es : List Event := [.start 0 (.act (.openFile ['a'])), .finish 0,
      .start 1 (.act (.edit ['y'])), .insert ['a'] ['z'], .start 2 (.act .check), .finish 2,
      .start 3 (.act (.openFile ['b'])), .finish 3]
    let b := (Setup.ofFiles [(['a'], ['x']), (['b'], [])]).bench
    let e := Event.start 4 (.message .keepMine)
    (b.run es).asked? e = some (.resolve .keepMine) ∧
      (b.run es).conflict? = some ⟨['a'], 1, ['z'], 0⟩ ∧
      ((b.run es).step e).2.session? ['a'] = some ⟨1, ['a'], ['z'], ['y'], false, 1⟩ ∧
      ∃ es₁ e₁ es₂, es = es₁ ++ e₁ :: es₂ ∧
        ((b.run es₁).step e₁).2.Untouched es₂ ⟨['a'], 1, ['z'], 0⟩ := by
  have applied : ((Setup.ofFiles [(['a'], ['x']), (['b'], [])]).bench.run
      [.start 0 (.act (.openFile ['a'])), .finish 0, .start 1 (.act (.edit ['y'])),
        .insert ['a'] ['z'], .start 2 (.act .check), .finish 2, .start 3 (.act (.openFile ['b'])),
        .finish 3]).resolution .keepMine = .ok (some ⟨1, ['a'], ['z'], ['y'], false, 1⟩) := by
    decide
  obtain ⟨-, -, settles⟩ := resolution_against_its_state
    (Setup.ofFiles [(['a'], ['x']), (['b'], [])])
    [.start 0 (.act (.openFile ['a'])), .finish 0, .start 1 (.act (.edit ['y'])),
      .insert ['a'] ['z'], .start 2 (.act .check), .finish 2, .start 3 (.act (.openFile ['b'])),
      .finish 3] (.start 4 (.message .keepMine)) rfl
  obtain ⟨-, -, ⟨es₁, e₁, es₂, split, -, iff⟩, after, -⟩ := settles ⟨['a'], 1, ['z'], 0⟩ (by decide)
  exact ⟨rfl, by decide, (after _ applied).1, es₁, e₁, es₂, split, iff.1 ⟨_, applied⟩⟩

end Bench
end ScriptDesk
