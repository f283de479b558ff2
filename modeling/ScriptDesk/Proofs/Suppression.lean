import ScriptDesk.Proofs.Resolution

/-! Checks held back by a conflict.  They are held back while the session of the conflict is open;
the conflict can be resolved while the baseline of that session is the one it was found for.  The
two come apart when the file is saved, or opened again, and the conflict is not resolved before. -/

namespace ScriptDesk

def Effect.overtakes : Effect → Bool
  | refresh _ | endSave (some _) => true
  | _ => false

theorem Effect.rebases_of_overtakes {effect : Effect} (h : effect.overtakes = true) :
    effect.rebases = true := by
  cases effect with
  | refresh content => rfl
  | endSave written =>
    cases written with
    | some text => rfl
    | none => cases h
  | _ => cases h

theorem Watch.claim_eq_conflictPending {w : Workspace} {v : Watch} :
    (v.claim w).1 = .error .conflictPending ↔
      v.shutDown = false ∧ v.conflict.any (applies · w) = true := by
  unfold claim
  split
  · next shut => simp [shut]
  · next up =>
    rw [Bool.not_eq_true] at up
    split
    · next kept => simp [up, kept]
    · next lapsed =>
      rw [Bool.not_eq_true] at lapsed
      simp only [up, lapsed, Bool.false_eq_true, and_false, iff_false]
      split
      · simp
      · split
        · simp
        · split <;> simp

namespace Desk

theorem mustPersist_of_checks {d : Desk} {a : Act} (h : d.checks a = true) :
    a.mustPersist = false := by
  cases a <;> first | rfl | cases h

end Desk

namespace Bench

def HoldsBack (b : Bench) : Prop :=
  ∀ e a, b.asked? e = some a → b.desk.checks a = true →
    b.Answers e (.ok (.verdict (.skipped .conflictPending)))

def Resolvable (b : Bench) : Prop := ∀ r, ∃ s, b.resolution r = .ok (some s)

/-- During the run the file of the conflict was saved, or opened again with another text. -/
def Overtakes (b : Bench) (es : List Event) (c : Conflict) : Prop :=
  ∃ x ∈ b.steps es, (x.1.effect x.2 c.path).overtakes = true

theorem answers_check {b : Bench} {e : Event} {a : Act} {reason : SkipReason}
    (asked : b.asked? e = some a) (act : b.desk.checks a = true)
    (claimed : (b.desk.watch.claim b.desk.workspace).1 = .error reason) :
    b.Answers e (.ok (.verdict (.skipped reason))) := by
  have done : (b.desk.begin a).1 = .done (.ok (.verdict (.skipped reason))) := by
    rw [(Desk.begin_of_checks act).1, claimed]
    rfl
  exact answers_of_done asked done (Desk.mustPersist_of_checks act)

theorem holdsBack_iff_claim {b : Bench} :
    b.HoldsBack ↔ (b.desk.watch.claim b.desk.workspace).1 = .error .conflictPending := by
  constructor
  · intro back
    have told := back (.start 0 (.act .check)) .check rfl rfl
    rw [answers_act] at told
    cases claimed : (b.desk.watch.claim b.desk.workspace).1 with
    | error reason =>
      have answer := answers_act.1 (answers_check (e := .start 0 (.act .check)) rfl rfl claimed)
      cases told.symm.trans answer
      rfl
    | ok ticket =>
      have stage := (Desk.begin_of_checks (d := b.desk) (a := .check) rfl).1
      rw [claimed] at stage
      have waits : (b.step (.start 0 (.act .check))).1 = .waits :=
        congrArg Prod.fst (begin_waits stage 0 none)
      cases told.symm.trans waits
  · intro claimed e a asked act
    exact answers_check asked act claimed

theorem holdsBack_iff {b : Bench} :
    b.HoldsBack ↔ b.desk.watch.shutDown = false ∧
      ∃ c, b.conflict? = some c ∧ b.Holds c.path c.session := by
  rw [holdsBack_iff_claim, Watch.claim_eq_conflictPending, Option.any_eq_true]
  simp only [Watch.applies_eq_true]
  rfl

theorem resolvable_iff {b : Bench} {c : Conflict} (kept : b.conflict? = some c) :
    b.Resolvable ↔
      ∃ s, b.session? c.path = some s ∧ s.id = c.session ∧ s.revision = c.revision := by
  constructor
  · intro resolvable
    obtain ⟨s, applied⟩ := resolvable .keepMine
    rcases resolution_of_conflict .keepMine kept with ⟨s', opened, id, revision, -⟩ | ⟨-, refused⟩
    · exact ⟨s', opened, id, revision⟩
    · cases applied.symm.trans refused
  · intro same r
    rcases resolution_of_conflict r kept with ⟨s, -, -, -, applied⟩ | ⟨moved, -⟩
    · exact ⟨_, applied⟩
    · exact absurd same moved

theorem checks_ne_zero {b : Bench} {e : Event} {t : BenchTask} {ticket : Ticket}
    (finished : b.finished? e = some t) (pending : t.pending = .checking ticket) :
    b.checks ≠ 0 := by
  have count := checks_without (task?_of_finished finished)
  rw [pending] at count
  simp only [Pending.checks, Bool.toNat_true] at count
  omega

theorem overtakes_of_rebases {b : Bench} {e : Event} {c : Conflict} (one : b.OneCheck)
    (kept : b.conflict? = some c) (stays : (b.step e).2.conflict? = some c) {path : Text}
    (rebases : (b.effect e path).rebases = true) : (b.effect e path).overtakes = true := by
  have cause := b.cause e path
  generalize b.effect e path = effect at cause rebases
  cases cause with
  | refresh finished pending read opened free => rfl
  | written finished pending write => rfl
  | adopt finished pending read judged =>
    have busy := checks_ne_zero finished pending
    rw [one.slot] at busy
    have reading : b.desk.watch.reading = true := by simpa using busy
    cases kept.symm.trans (one.apart reading)
  | @settle r c' s asked conflict same opened id revision =>
    rcases conflict?_step_of_some one kept e with ⟨-, unresolved⟩ | ⟨gone, -⟩
    · exact absurd (.inl ⟨r, asked⟩) unresolved
    · cases stays.symm.trans gone
  | _ => cases rebases

theorem rebases_iff_overtakes {u : Setup} {es₁ es₂ : List Event} {e : Event} {c : Conflict}
    (since : (u.bench.run es₁).RaisedSince e es₂ c) :
    (∀ x ∈ ((u.bench.run es₁).step e).2.steps es₂, (x.1.effect x.2 c.path).rebases = false) ↔
      ¬ ((u.bench.run es₁).step e).2.Overtakes es₂ c := by
  simp only [Overtakes, not_exists, not_and, Bool.not_eq_true]
  refine forall₂_congr fun x hx => ?_
  obtain ⟨es, es', -, here⟩ := exists_of_mem_steps hx
  have one : x.1.OneCheck := by
    have reached := oneCheck u (es₁ ++ e :: es)
    rwa [run_append, run_cons, ← here] at reached
  have kept := since.kept _ (fst_mem_states hx)
  have stays := since.kept _ (step_mem_states hx)
  rw [← Bool.not_eq_true, ← Bool.not_eq_true, not_iff_not]
  exact ⟨overtakes_of_rebases one kept stays, Effect.rebases_of_overtakes⟩

theorem untouched_iff_not_overtakes {u : Setup} {es₁ es₂ : List Event} {e : Event} {c : Conflict}
    (since : (u.bench.run es₁).RaisedSince e es₂ c) :
    ((u.bench.run es₁).step e).2.Untouched es₂ c ↔
      (((u.bench.run es₁).step e).2.run es₂).Holds c.path c.session ∧
        ¬ ((u.bench.run es₁).step e).2.Overtakes es₂ c := by
  have still := rebases_iff_overtakes since
  constructor
  · rintro ⟨held, same⟩
    exact ⟨held _ (run_mem_states _ es₂), still.1 same⟩
  · rintro ⟨holds, calm⟩
    obtain ⟨s, opened, id, -⟩ := since.raised.found
    rcases session_run es₂ opened with removed | ⟨stays, -⟩
    · exact absurd holds (not_holds_of_removed (given_of_raises since.raised) removed)
    · exact ⟨id ▸ stays, still.2 calm⟩

/-- Checks are held back exactly while the session is open that the pending conflict was found for.
The conflict can be resolved exactly while that session is open and was not saved or opened again
since the conflict was raised. -/
theorem conflict_holds_checks_back (u : Setup) (es : List Event) :
    ((u.bench.run es).HoldsBack → ∃ c, (u.bench.run es).conflict? = some c) ∧
    ∀ c, (u.bench.run es).conflict? = some c →
      ((u.bench.run es).HoldsBack ↔
        (u.bench.run es).desk.watch.shutDown = false ∧
          (u.bench.run es).Holds c.path c.session) ∧
      ∃ es₁ e₁ es₂, es = es₁ ++ e₁ :: es₂ ∧ (u.bench.run es₁).RaisedSince e₁ es₂ c ∧
        ((u.bench.run es).Resolvable ↔
          (u.bench.run es).Holds c.path c.session ∧
            ¬ ((u.bench.run es₁).step e₁).2.Overtakes es₂ c) := by
  constructor
  · intro back
    obtain ⟨-, c, kept, -⟩ := holdsBack_iff.1 back
    exact ⟨c, kept⟩
  · intro c kept
    constructor
    · rw [holdsBack_iff]
      simp [kept]
    · obtain ⟨es₁, e₁, es₂, split, since⟩ := raisedSince_of_conflict? kept
      refine ⟨es₁, e₁, es₂, split, since, ?_⟩
      have here : u.bench.run es = ((u.bench.run es₁).step e₁).2.run es₂ := by
        rw [split, run_append, run_cons]
      have untouched := @untouched_iff _ es₂ c (given_of_raises since.raised) since.raised.found
      rw [resolvable_iff kept, here, ← untouched]
      exact untouched_iff_not_overtakes since

theorem unsaved_conflict_holds_checks_back :
    let b := (Setup.ofFiles [(['a'], ['x'])]).bench.run
      [.start 0 (.act (.openFile ['a'])), .finish 0, .start 1 (.act (.edit ['y'])),
        .insert ['a'] ['z'], .start 2 (.act .check), .finish 2, .start 3 (.act (.edit ['w']))]
    b.conflict? = some ⟨['a'], 1, ['z'], 0⟩ ∧ b.HoldsBack ∧ b.Resolvable := by
  have kept : ((Setup.ofFiles [(['a'], ['x'])]).bench.run
      [.start 0 (.act (.openFile ['a'])), .finish 0, .start 1 (.act (.edit ['y'])),
        .insert ['a'] ['z'], .start 2 (.act .check), .finish 2,
        .start 3 (.act (.edit ['w']))]).conflict? = some ⟨['a'], 1, ['z'], 0⟩ := by decide
  obtain ⟨-, suppresses⟩ := conflict_holds_checks_back (Setup.ofFiles [(['a'], ['x'])])
    [.start 0 (.act (.openFile ['a'])), .finish 0, .start 1 (.act (.edit ['y'])),
      .insert ['a'] ['z'], .start 2 (.act .check), .finish 2, .start 3 (.act (.edit ['w']))]
  obtain ⟨back, -⟩ := suppresses _ kept
  refine ⟨kept, back.2 ⟨by decide, ⟨1, ['a'], ['x'], ['w'], false, 0⟩, by decide, rfl⟩, ?_⟩
  exact (resolvable_iff kept).2 ⟨⟨1, ['a'], ['x'], ['w'], false, 0⟩, by decide, rfl, rfl⟩

/-- A conflict whose file was saved since, or opened again, is refused by whoever resolves it, and
goes on to hold checks back: what is written to the file from outside is not noticed. -/
theorem overtaken_conflict_holds_checks_back :
    let b := (Setup.ofFiles [(['a'], ['x'])]).bench.run
      [.start 0 (.act (.openFile ['a'])), .finish 0, .start 1 (.act (.edit ['y'])),
        .insert ['a'] ['z'], .start 2 (.act .check), .finish 2]
    let saved := b.run [.start 3 (.message .save), .finish 3, .insert ['a'] ['w']]
    let opened := b.run [.start 3 (.act (.edit ['x'])), .start 4 (.message (.openFile ['a'])),
      .finish 4, .insert ['a'] ['w']]
    (saved.session? ['a'] = some ⟨1, ['a'], ['y'], ['y'], false, 1⟩ ∧
      saved.disk.contents ['a'] = some ['w'] ∧ saved.HoldsBack ∧
      ∀ r, saved.resolution r = .ok none) ∧
    (opened.session? ['a'] = some ⟨1, ['a'], ['z'], ['z'], false, 1⟩ ∧
      opened.disk.contents ['a'] = some ['w'] ∧ opened.HoldsBack ∧
      ∀ r, opened.resolution r = .ok none) := by
  refine ⟨⟨by decide, by decide, ?_, ?_⟩, by decide, by decide, ?_, ?_⟩
  · exact holdsBack_iff.2 ⟨by decide, ⟨['a'], 1, ['z'], 0⟩, by decide, _, rfl, rfl⟩
  · rintro (_ | _) <;> decide
  · exact holdsBack_iff.2 ⟨by decide, ⟨['a'], 1, ['z'], 0⟩, by decide, _, rfl, rfl⟩
  · rintro (_ | _) <;> decide

end Bench
end ScriptDesk
