import ScriptDesk.Proofs.Baseline
import ScriptDesk.Proofs.Refusal
import ScriptDesk.Proofs.Resolution

/-! What a check finds.  When nothing comes between its two stages the verdict follows from what is
read and from the session.  After it, or once its conflict is resolved, the session takes what was
read to be on disk; so while that stays there no check reports it again. -/

namespace ScriptDesk

/-- What a check of a session finds by what is read: the verdict, the session and the conflict it
leaves. -/
inductive Finds (s : Session) : Except IoError Text → Verdict → Session → Option Conflict → Prop
  | unread (error : IoError) : Finds s (.error error) .readFailed s none
  | unchanged : Finds s (.ok s.baseline) .unchanged s none
  | adopted {disk : Text} (other : disk ≠ s.baseline) (clean : s.dirty = false) :
      Finds s (.ok disk) (.adopted s.path) (s.reset disk) none
  | conflict {disk : Text} (other : disk ≠ s.baseline) (dirty : s.dirty = true) :
      Finds s (.ok disk) (.conflict ⟨s.path, s.id, disk, s.revision⟩) s
        (some ⟨s.path, s.id, disk, s.revision⟩)

namespace Watch

theorem claim_of_free {w : Workspace} {v : Watch} {s : Session} (up : v.shutDown = false)
    (lapsed : v.conflict.any (applies · w) = false) (idle : v.reading = false)
    (current : w.currentSession? = some s) (free : s.saving = false) :
    v.claim w = (.ok ⟨s.path, w.generation, s.revision⟩, ⟨none, true, false⟩) := by
  simp [claim, up, lapsed, idle, current, free]

theorem judge_of_fits {t : Ticket} {w : Workspace} {v : Watch} {s : Session} (fits : Fits t w v s)
    (disk : Text) : judge t disk w v =
      if disk = s.baseline then .unchanged
      else if s.dirty then .conflict ⟨t.path, s.id, disk, s.revision⟩ else .adopted t.path := by
  simp [judge, fits.up, fits.generation, fits.opened, fits.revision, fits.free]

theorem finds_of_fits {t : Ticket} {w : Workspace} {v : Watch} {s : Session} (fits : Fits t w v s)
    (unset : v.conflict = none) (read : Except IoError Text) :
    ∃ s', Finds s read (v.land t read w).1 s' (v.land t read w).2.2.conflict ∧
      ∀ path, (v.land t read w).2.1.session? path =
        if path = s.path then some s' else w.session? path := by
  have path := Workspace.path_of_session? fits.opened
  have same (p : Text) : w.session? p = if p = s.path then some s else w.session? p := by
    split
    · next here => rw [here, path, fits.opened]
    · rfl
  cases read with
  | error e => exact ⟨s, by simpa [land, release, unset] using Finds.unread e, same⟩
  | ok disk =>
    simp only [land, judge_release, judge_of_fits fits, ← path]
    by_cases here : disk = s.baseline
    · subst here
      exact ⟨s, by simpa [release, unset] using Finds.unchanged, by simpa using same⟩
    · cases dirty : s.dirty with
      | true => exact ⟨s, by simpa [here] using Finds.conflict here dirty, by simpa [here] using same⟩
      | false =>
        refine ⟨s.reset disk, by simpa [here, release, unset] using Finds.adopted here dirty, ?_⟩
        intro p
        simp only [here, if_false, Bool.false_eq_true]
        rw [Workspace.session?_modify _ (by simp)]
        split
        · next at_path => rw [at_path, path, fits.opened, Option.map_some]
        · rfl

end Watch

namespace Desk

theorem workspace_begin_of_checks {d : Desk} {a : Act} (act : d.checks a = true) :
    (d.begin a).2.workspace = d.workspace := by
  cases a with
  | check => rw [begin, check_snd]
  | focus now => exact d.workspace_begin_focus now
  | _ => cases act

end Desk

namespace Bench

/-- A job under a fresh name asks for a check of the current session, and nothing holds it back. -/
structure MayCheck (b : Bench) (id : Nat) (job : Job) (s : Session) : Prop where
  asks : ∃ a, b.desk.act? job = some a ∧ b.desk.checks a = true
  fresh : b.task? id = none
  up : b.desk.watch.shutDown = false
  current : b.currentSession? = some s
  free : s.saving = false
  alone : b.checks = 0
  lapsed : ∀ c, b.conflict? = some c → ¬ b.Holds c.path c.session

def atOnce (b : Bench) (id : Nat) (job : Job) : Echo × Bench :=
  (b.step (.start id job)).2.step (.finish id)

def ChecksTo (b : Bench) (id : Nat) (job : Job) (v : Verdict) (b' : Bench) : Prop :=
  b.atOnce id job = (b'.desk.echo (b.desk.report? job) (.ok (.verdict v)), b')

theorem ticket_of_mayCheck {b : Bench} (one : b.OneCheck) {id : Nat} {job : Job} {s : Session}
    (may : b.MayCheck id job s) :
    ∃ b' ticket, (b.step (.start id job)).2 = b' ∧
      b'.finished? (.finish id) = some ⟨id, .checking ticket, b.desk.report? job⟩ ∧
      Watch.Fits ticket b'.desk.workspace b'.desk.watch s ∧ b'.conflict? = none ∧
      b'.disk = b.disk ∧ ∀ path, b'.session? path = b.session? path := by
  obtain ⟨a, asks, act⟩ := may.asks
  obtain ⟨-, opened⟩ := Workspace.currentSession?_eq_some.1 may.current
  have idle : b.desk.watch.reading = false := by
    have slot := one.slot
    rw [may.alone] at slot
    exact Bool.toNat_eq_zero.1 slot.symm
  have lapsed : b.desk.watch.conflict.any (Watch.applies · b.desk.workspace) = false := by
    rw [← Bool.not_eq_true, Option.any_eq_true]
    rintro ⟨c, kept, applies⟩
    exact may.lapsed c kept (Watch.applies_eq_true.1 applies)
  have claimed := Watch.claim_of_free may.up lapsed idle may.current may.free
  obtain ⟨stage, watch⟩ := Desk.begin_of_checks act
  have workspace := Desk.workspace_begin_of_checks act
  rw [claimed] at stage watch
  obtain ⟨id', job', event, begun⟩ := step_eq_begin (e := .start id job) asks
  cases event
  rw [begin_waits stage] at begun
  have found := task?_concat (t := ⟨id, .checking ⟨s.path, b.generation, s.revision⟩,
    b.desk.report? job⟩) (b.desk.begin a).2 may.fresh
  refine ⟨_, _, congrArg Prod.snd begun, found, ?_, ?_, rfl, ?_⟩
  · exact ⟨by rw [watch], by rw [workspace]; rfl, by rw [workspace]; exact opened, rfl, may.free⟩
  · rw [conflict?, watch]
  · intro path
    rw [session?, workspace]
    rfl

theorem finds_of_mayCheck {b : Bench} (one : b.OneCheck) {id : Nat} {job : Job} {s : Session}
    (may : b.MayCheck id job s) :
    ∃ v s' b', Finds s (b.disk.read s.path) v s' b'.conflict? ∧ b.ChecksTo id job v b' ∧
      b'.disk = b.disk ∧
      ∀ path, b'.session? path = if path = s.path then some s' else b.session? path := by
  obtain ⟨b₁, ticket, started, finished, fits, unset, disk, sessions⟩ := ticket_of_mayCheck one may
  have here : ticket.path = s.path := (Workspace.path_of_session? fits.opened).symm
  obtain ⟨s', finds, after⟩ := Watch.finds_of_fits fits unset (b₁.disk.read ticket.path)
  obtain ⟨landed, unwritten⟩ := step_of_finished finished
  refine ⟨(b₁.desk.watch.land ticket (b₁.disk.read ticket.path) b₁.desk.workspace).1, s',
    (b₁.step (.finish id)).2, ?_, ?_, unwritten.trans disk, ?_⟩
  · rw [conflict?, landed, ← disk, ← here]
    exact finds
  · rw [ChecksTo, atOnce, started]
    exact Prod.ext (echo_of_finished finished) rfl
  · intro path
    rw [session?, landed, ← sessions path]
    exact after path

structure Synced (b : Bench) (path text : Text) : Prop where
  baseline : ∀ s, b.session? path = some s → s.baseline = text
  conflict : ∀ c, b.conflict? = some c → c.path = path → c.disk = text

theorem synced_step {b : Bench} {path text : Text} (synced : b.Synced path text) (e : Event)
    (still : (b.step e).2.disk.contents path = some text) : (b.step e).2.Synced path text := by
  constructor
  · intro s' after
    rw [session?_step] at after
    rcases Effect.baseline_apply after with taken | ⟨-, s, opened, same⟩
    · rcases contents_of_baseline? taken with now | ⟨-, c, kept, here, disk⟩
      · exact Option.some.inj (now.symm.trans still)
      · exact disk ▸ synced.conflict c kept here
    · exact same ▸ synced.baseline s opened
  · intro c after here
    rcases conflict?_step after with kept | raised
    · exact synced.conflict c kept here
    · have now := contents_of_raises raised
      rw [here] at now
      exact Option.some.inj (now.symm.trans still)

def StaysOnDisk (b : Bench) (es : List Event) (path text : Text) : Prop :=
  ∀ x ∈ b.states es, x.disk.contents path = some text

instance (b : Bench) (es : List Event) (path text : Text) : Decidable (b.StaysOnDisk es path text) :=
  inferInstanceAs (Decidable (∀ x ∈ _, _))

theorem synced_run {b : Bench} {path text : Text} (synced : b.Synced path text) {es : List Event}
    (stays : b.StaysOnDisk es path text) : (b.run es).Synced path text := by
  induction es generalizing b with
  | nil => exact synced
  | cons e es ih =>
    obtain ⟨-, later⟩ := List.forall_mem_cons.1 stays
    exact ih (synced_step synced e (later _ (self_mem_states _ es))) later

theorem synced_of_opened {b : Bench} {path : Text} {s : Session}
    (opened : b.session? path = some s) (unset : b.conflict? = none) :
    b.Synced path s.baseline where
  baseline s' opened' := by
    cases opened.symm.trans opened'
    rfl
  conflict c kept := by
    cases unset.symm.trans kept

def Settles (b : Bench) (e : Event) (c : Conflict) : Prop :=
  b.conflict? = some c ∧
    ∃ r s, b.asked? e = some (.resolve r) ∧ b.resolution r = .ok (some s)

theorem synced_of_settles {b : Bench} {e : Event} {c : Conflict} (settles : b.Settles e c) :
    (b.step e).2.Synced c.path c.disk := by
  obtain ⟨kept, r, s', asked, applied⟩ := settles
  have unset : (b.step e).2.conflict? = none := by
    rw [conflict?, ← Desk.watch_flushed, (step_of_asked asked).1]
    exact congrArg Watch.conflict (Watch.snd_resolve r b.desk.workspace b.desk.watch)
  rcases resolution_of_conflict r kept with ⟨s, opened, id, revision, -⟩ | ⟨-, refused⟩
  · have settled : (b.step e).2.session? c.path = some (Watch.settle r c.disk s) := by
      rw [session?_step, effect_of_resolve asked kept opened id revision, opened]
      rfl
    rw [Watch.settle_eq] at settled
    exact synced_of_opened settled unset
  · cases applied.symm.trans refused

def InStep (b : Bench) (path : Text) : Prop :=
  ∀ id job s, b.MayCheck id job s → s.path = path → b.disk.failReads = false →
    ∃ b', b.ChecksTo id job .unchanged b'

theorem inStep_of_synced {b : Bench} {path text : Text} (one : b.OneCheck)
    (synced : b.Synced path text) (there : b.disk.contents path = some text) : b.InStep path := by
  rintro id job s may rfl readable
  obtain ⟨v, s', b', finds, checks, -⟩ := finds_of_mayCheck one may
  obtain ⟨-, opened⟩ := Workspace.currentSession?_eq_some.1 may.current
  have read : b.disk.read s.path = .ok s.baseline := by
    simp [Disk.read, readable, there, synced.baseline s opened]
  rw [read] at finds
  generalize b'.conflict? = left at finds
  cases finds with
  | unchanged => exact ⟨b', checks⟩
  | adopted other => exact absurd rfl other
  | conflict other => exact absurd rfl other

theorem inStep_of_staysOnDisk {u : Setup} {es es' : List Event} {path text : Text}
    (synced : (u.bench.run es).Synced path text)
    (stays : (u.bench.run es).StaysOnDisk es' path text) :
    ((u.bench.run es).run es').InStep path := by
  have one := oneCheck u (es ++ es')
  rw [run_append] at one
  exact inStep_of_synced one (synced_run synced stays) (stays _ (run_mem_states _ es'))

/-- A check that nothing holds back, made at once, tells from its session and from what it reads
whether the file was changed.  A change is not found a second time: after the check, or once its
conflict was resolved, no check finds one while the text that was read stays on disk. -/
theorem change_found_once (u : Setup) (es : List Event) {id : Nat} {job : Job} {s : Session}
    (may : (u.bench.run es).MayCheck id job s) :
    ∃ v b', (u.bench.run es).ChecksTo id job v b' ∧
      (∀ error, (u.bench.run es).disk.read s.path = .error error →
        v = .readFailed ∧ b'.conflict? = none ∧
          ∀ path, b'.session? path = (u.bench.run es).session? path) ∧
      ∀ disk, (u.bench.run es).disk.read s.path = .ok disk →
        (v = .unchanged ↔ disk = s.baseline) ∧
        (v = .adopted s.path ↔ disk ≠ s.baseline ∧ s.dirty = false) ∧
        (v = .conflict ⟨s.path, s.id, disk, s.revision⟩ ↔ disk ≠ s.baseline ∧ s.dirty = true) ∧
        (v = .unchanged → b'.conflict? = none ∧
          ∀ path, b'.session? path = (u.bench.run es).session? path) ∧
        (v = .adopted s.path → b'.conflict? = none ∧
          b'.session? s.path =
            some { s with baseline := disk, working := disk, revision := s.revision + 1 } ∧
          ∀ path, path ≠ s.path → b'.session? path = (u.bench.run es).session? path) ∧
        (∀ c, v = .conflict c → b'.conflict? = some c ∧ c.disk = disk ∧
          ∀ path, b'.session? path = (u.bench.run es).session? path) ∧
        (v = .unchanged ∨ v = .adopted s.path →
          ∀ es', b'.StaysOnDisk es' s.path disk → (b'.run es').InStep s.path) ∧
        ∀ c, v = .conflict c → ∀ es₁ e es₂, (b'.run es₁).Settles e c →
          ((b'.run es₁).step e).2.StaysOnDisk es₂ s.path disk →
            (((b'.run es₁).step e).2.run es₂).InStep s.path := by
  obtain ⟨v, s', b', finds, checks, -, after⟩ := finds_of_mayCheck (oneCheck u es) may
  obtain ⟨-, opened⟩ := Workspace.currentSession?_eq_some.1 may.current
  have here : b'.session? s.path = some s' := by rw [after, if_pos rfl]
  have unchanged (same : s' = s) (path : Text) :
      b'.session? path = (u.bench.run es).session? path := by
    rw [after, same]
    split
    · next at_path => rw [at_path]; exact opened.symm
    · rfl
  have reached : b' = u.bench.run (es ++ [.start id job, .finish id]) := by
    rw [run_append]
    exact (congrArg Prod.snd checks).symm
  have inStep {text : Text} (synced : b'.Synced s.path text) (es' : List Event)
      (stays : b'.StaysOnDisk es' s.path text) : (b'.run es').InStep s.path := by
    rw [reached] at synced stays ⊢
    exact inStep_of_staysOnDisk synced stays
  refine ⟨v, b', checks, ?_, ?_⟩
  -- the cases of `Finds` say what the conflict left behind is
  all_goals
    generalize left : b'.conflict? = kept at finds
  · intro error read
    rw [read] at finds
    cases finds with
    | unread => exact ⟨rfl, rfl, unchanged rfl⟩
  · intro disk read
    rw [read] at finds
    cases finds with
    | unchanged =>
      exact ⟨by simp, by simp, by simp, fun _ => ⟨rfl, unchanged rfl⟩, by simp, by simp,
        fun _ => inStep (synced_of_opened here left), by simp⟩
    | adopted other clean =>
      refine ⟨by simp [other], by simp [other, clean], by simp [clean], by simp,
        fun _ => ⟨rfl, here, ?_⟩, by simp, fun _ => inStep (synced_of_opened here left), by simp⟩
      intro path elsewhere
      rw [after, if_neg elsewhere]
    | conflict other dirty =>
      refine ⟨by simp [other], by simp [dirty], by simp [other, dirty], by simp, by simp, ?_,
        by simp, ?_⟩
      · rintro c ⟨rfl⟩
        exact ⟨rfl, rfl, unchanged rfl⟩
      · rintro c ⟨rfl⟩ es₁ e es₂ settles stays
        have synced := synced_of_settles settles
        rw [reached, ← run_append, ← run_concat] at synced stays ⊢
        exact inStep_of_staysOnDisk synced stays

theorem resolved_change_not_found_again :
    let b := (Setup.ofFiles [(['a'], ['x'])]).bench.run
      [.start 0 (.act (.openFile ['a'])), .finish 0, .start 1 (.act (.edit ['y'])),
        .insert ['a'] ['z']]
    let b' := b.run [.start 2 (.message .tick), .finish 2, .start 3 (.act (.edit ['w'])),
      .start 4 (.message .keepMine), .start 5 (.act (.edit ['v']))]
    b.MayCheck 2 (.message .tick) ⟨1, ['a'], ['x'], ['y'], false, 0⟩ ∧
      b'.MayCheck 6 (.act .check) ⟨1, ['a'], ['z'], ['v'], false, 1⟩ ∧
      ∃ b'', b'.ChecksTo 6 (.act .check) .unchanged b'' := by
  have may : ((Setup.ofFiles [(['a'], ['x'])]).bench.run
      [.start 0 (.act (.openFile ['a'])), .finish 0, .start 1 (.act (.edit ['y'])),
        .insert ['a'] ['z']]).MayCheck 2 (.message .tick) ⟨1, ['a'], ['x'], ['y'], false, 0⟩ :=
    ⟨⟨.check, rfl, rfl⟩, by decide, by decide, by decide, rfl, by decide, by rintro c ⟨⟩⟩
  obtain ⟨v, b', checks, -, found⟩ := change_found_once (Setup.ofFiles [(['a'], ['x'])]) _ may
  obtain rfl : _ = b' := congrArg Prod.snd checks
  obtain ⟨-, -, conflict, -, -, -, -, settled⟩ := found ['z'] (by decide)
  have inStep := settled _ (conflict.2 (by decide)) [.start 3 (.act (.edit ['w']))]
    (.start 4 (.message .keepMine)) [.start 5 (.act (.edit ['v']))]
    ⟨by decide, .keepMine, _, rfl, rfl⟩ (by decide)
  refine ⟨may, ?again, inStep 6 (.act .check) _ ?again rfl rfl⟩
  exact ⟨⟨.check, rfl, rfl⟩, by decide, by decide, by decide, rfl, by decide, by rintro c ⟨⟩⟩

end Bench
end ScriptDesk
