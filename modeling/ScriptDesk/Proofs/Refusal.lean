import ScriptDesk.Proofs.Answer
import ScriptDesk.Proofs.Coherence
import ScriptDesk.Proofs.LineEdits

/-! What is refused leaves everything as it was.  An act that fails at once was stopped before it
changed anything, and one that fails when it lands was refused by the disk: all it leaves behind is
that a session is not being saved any more. -/

namespace ScriptDesk
namespace Workspace

theorem modify_eq_self {w : Workspace} {path : Text} {f : Session → Session}
    (h : ∀ s ∈ w.sessions, s.path = path → f s = s) : w.modify path f = w := by
  have same : w.sessions.modify path f = w.sessions := by
    rw [Sessions.modify, List.map_congr_left (g := id)]
    · exact List.map_id _
    · intro s hs
      by_cases here : s.path = path
      · rw [if_pos here, h s hs here, id]
      · rw [if_neg here, id]
  rw [modify, same]

theorem modify_modify (w : Workspace) {path : Text} {f g : Session → Session}
    (h : ∀ s, s.path = path → (f s).path = path) :
    (w.modify path f).modify path g = w.modify path (g ∘ f) := by
  have same : (w.sessions.modify path f).modify path g = w.sessions.modify path (g ∘ f) := by
    simp only [Sessions.modify, List.map_map]
    refine List.map_congr_left fun s _ => ?_
    by_cases here : s.path = path
    · simp [here, h s here]
    · simp [here]
  rw [modify, modify, modify, same]

theorem savePath_of_free {w : Workspace} {path : Text} {s : Session}
    (opened : w.session? path = some s) (free : s.saving = false) :
    w.savePath path =
      (.waits (.saving path s.working), w.modify path fun _ => { s with saving := true }) := by
  simp [savePath, opened, Session.beginSave?, free]

theorem modify_saving {w : Workspace} {path : Text} {s : Session} (apart : w.paths.Nodup)
    (opened : w.session? path = some s) (free : s.saving = false) :
    (w.modify path fun _ => { s with saving := true }).modify path
      (fun s => { s with saving := false }) = w := by
  have here := path_of_session? opened
  have keeps : ∀ s' : Session, s'.path = path → { s with saving := true }.path = path :=
    fun _ _ => here
  rw [modify_modify w keeps]
  refine modify_eq_self fun s' mem same => ?_
  have opened' : w.session? path = some s' := (session?_eq_some_iff apart).2 ⟨mem, same⟩
  cases opened.symm.trans opened'
  rcases s with ⟨id, path, baseline, working, saving, revision⟩
  cases free
  rfl

end Workspace

def Message.mustPersist : Message → Bool
  | .remove _ | .setTheme _ => true
  | _ => false

namespace Desk

theorem mustPersist_of_plan {d : Desk} {m : Message} {a : Act} {report : Report}
    (planned : d.plan m = .act a report) (persists : a.mustPersist = true) :
    m.mustPersist = true := by
  have edit {f : Text → Except Failure Text} (planned : d.planEdit f = .act a report) : False := by
    unfold planEdit at planned
    split at planned
    · cases planned
    · split at planned <;> cases planned
      cases persists
  cases m with
  | remove | setTheme => rfl
  | append | setLine | deleteLine =>
    rw [plan] at planned
    exact (edit planned).elim
  | replace =>
    simp only [plan] at planned
    split at planned
    · cases planned
    · split at planned <;> cases planned
      cases persists
  | print | highlight =>
    simp only [plan, planView] at planned
    split at planned <;> cases planned
  | shell =>
    simp only [plan] at planned
    split at planned <;> cases planned
  | _ =>
    cases planned
    try cases persists

/-- The desk once the disk has refused an act: a session whose save failed is not being saved any
more. -/
def refused (d : Desk) : Pending → Desk
  | .saving path _ =>
    { d with workspace := d.workspace.modify path fun s => { s with saving := false } }
  | _ => d

theorem refused_of_land {d : Desk} {disk : Disk} {pending : Pending} {failure : Failure}
    (h : (d.land pending (disk.access pending.access).1).1 = .error failure) :
    (d.land pending (disk.access pending.access).1).2 = d.refused pending ∧
      (disk.access pending.access).2 = disk := by
  cases pending with
  | opening path =>
    change (d.workspace.landOpening path (disk.read path)).1 = _ at h
    change (d.land (.opening path) (disk.read path)).2 = d ∧ disk = disk
    cases read : disk.read path with
    | error e => exact ⟨rfl, rfl⟩
    | ok content =>
      obtain ⟨s, shown⟩ := d.workspace.shown_landOpening path content
      rw [read] at h
      cases shown.symm.trans h
  | saving path text =>
    change (d.land (.saving path text) (disk.write path text).1).1 = _ at h
    change (d.land (.saving path text) (disk.write path text).1).2 = _ ∧
      (disk.write path text).2 = disk
    cases refuses : disk.failWrites with
    | true =>
      simp only [Disk.write, refuses, if_true, and_true]
      rfl
    | false =>
      simp only [Disk.write, refuses] at h
      cases h
  | checking ticket => cases h

theorem land_of_failWrites {d : Desk} {disk : Disk} {path text : Text}
    (refuses : disk.failWrites = true) :
    (d.land (.saving path text) (disk.write path text).1).1 = .error (.io .writeRefused) := by
  simp only [Disk.write, refuses, if_true]
  rfl

theorem echo_error (d d' : Desk) (report : Option Report) (failure : Failure) :
    d.echo report (.error failure) = d'.echo report (.error failure) := by
  cases report <;> rfl

end Desk

def Echo.failure? : Echo → Option Failure
  | .outcome (.error failure) | .reply (.error failure) => some failure
  | _ => none

namespace Desk

theorem failure?_echo {d : Desk} {report : Option Report} {r : Result} {failure : Failure}
    (h : (d.echo report r).failure? = some failure) : r = .error failure := by
  cases r with
  | ok outcome => cases report <;> cases h
  | error e =>
    cases report with
    | none =>
      cases h
      rfl
    | some report =>
      simp only [echo, reply] at h
      split at h
      · cases h
      · cases h
        rfl

theorem startTerminal_snd (preferred : Option Text) (dir : Text) (tree : FileTree) :
    ((startTerminal preferred dir : StateM FileTree _).run tree).2 = tree := by
  have tries (names : List Text) :
      ((Terminal.firstStarting (Host.starts dir) names : StateM FileTree _).run tree).2 = tree := by
    induction names with
    | nil => rfl
    | cons name names ih =>
      have asks : (Host.starts dir name : StateM FileTree Bool).run tree =
          (tree.starts dir name, tree) := rfl
      simp only [Terminal.firstStarting, StateT.run_bind, asks]
      cases tree.starts dir name with
      | true => rfl
      | false => exact ih
  exact tries _

end Desk

namespace Bench

def refused (t : BenchTask) (b : Bench) : Bench :=
  { b.without t.id with desk := b.desk.refused t.pending }

theorem outbox_refused (d : Desk) (pending : Pending) :
    (d.refused pending).workspace.outbox = d.workspace.outbox := by
  cases pending <;> rfl

theorem step_of_refused {b : Bench} {id : Nat} {t : BenchTask} {failure : Failure}
    (flushed : b.desk.workspace.outbox = []) (found : b.task? id = some t)
    (fails : (b.desk.land t.pending (b.disk.access t.pending.access).1).1 = .error failure) :
    b.step (.finish id) = (b.desk.echo t.report (.error failure), b.refused t) := by
  have after : (b.step (.finish id)).2 = b.refused t := by
    obtain ⟨desk, disk⟩ := Desk.refused_of_land fails
    simp only [step, found, land, without, desk, disk]
    rw [settle_of_flushed _ _ _ ((outbox_refused _ _).trans flushed), refused, without,
      id_of_task? found]
  have answer := echo_of_finished (e := .finish id) found
  rw [fails] at answer
  exact Prod.ext (answer.trans (Desk.echo_error _ _ _ _)) after

theorem step_of_fails {b : Bench} {e : Event} {a : Act} {failure : Failure}
    (flushed : b.desk.workspace.outbox = []) (asked : b.asked? e = some a)
    (fails : b.desk.Fails a failure) : (b.step e).2 = b :=
  step_of_idle flushed asked (Desk.begin_of_fails fails)

theorem step_of_say {b : Bench} {id : Nat} {m : Message} {r : Except Failure Reply}
    (planned : b.desk.plan m = .say r) : b.step (.start id (.message m)) = (.reply r, b) := by
  simp only [step, start, planned, carryOut]

theorem step_of_failure {b : Bench} {id : Nat} {m : Message} {failure : Failure}
    (flushed : b.desk.workspace.outbox = []) (free : m.mustPersist = false)
    (fails : (b.step (.start id (.message m))).1.failure? = some failure) :
    (b.step (.start id (.message m))).2 = b := by
  cases planned : b.desk.plan m with
  | say r => rw [step_of_say planned]
  | startTerminal dir =>
    simp only [step, start, planned, carryOut]
    exact congrArg (fun tree => { b with tree }) (Desk.startTerminal_snd b.terminal dir b.tree)
  | act a report =>
    have asked : b.asked? (.start id (.message m)) = some a := by
      simp only [asked?, Desk.act?, planned]
    have free : a.mustPersist = false := by
      rw [← Bool.not_eq_true]
      intro persists
      rw [Desk.mustPersist_of_plan planned persists] at free
      cases free
    have begun : b.step (.start id (.message m)) = b.begin id a (some report) := by
      simp only [step, start, planned, carryOut]
    rw [begun] at fails
    cases stage : (b.desk.begin a).1 with
    | done r =>
      rw [begin_done stage, free, settle_fst] at fails
      rw [Desk.failure?_echo fails] at stage
      exact step_of_fails flushed asked (Desk.fails_of_begin stage)
    | waits pending =>
      rw [begin_waits stage] at fails
      cases fails

theorem finish_of_failure {b : Bench} {id : Nat} {t : BenchTask} {failure : Failure}
    (flushed : b.desk.workspace.outbox = []) (found : b.task? id = some t)
    (fails : (b.step (.finish id)).1.failure? = some failure) :
    (∃ cause, failure = .io cause) ∧ (b.step (.finish id)).2 = b.refused t := by
  rw [echo_of_finished (e := .finish id) found] at fails
  have refused := Desk.failure?_echo fails
  exact ⟨Desk.error_of_land refused, congrArg Prod.snd (step_of_refused flushed found refused)⟩

theorem step_of_unread {b : Bench} {id : Nat} {t : BenchTask} {path : Text} {cause : IoError}
    (flushed : b.desk.workspace.outbox = []) (found : b.task? id = some t)
    (opening : t.pending = .opening path) (unread : b.disk.read path = .error cause) :
    b.step (.finish id) = (b.desk.echo t.report (.error (.io cause)), b.without id) := by
  rcases t with ⟨name, pending, report⟩
  subst opening
  have refused : b.refused ⟨name, .opening path, report⟩ = b.without id := by
    rw [← id_of_task? found]
    rfl
  rw [← refused]
  refine step_of_refused flushed found ?_
  change (b.desk.workspace.landOpening path (b.disk.read path)).1 = _
  rw [unread]
  rfl

theorem step_of_noLine {b : Bench} {s : Session} {n : Nat} (current : b.currentSession? = some s)
    (outside : n = 0 ∨ s.working.lineCount < n) (id : Nat) (line : Text) :
    b.step (.start id (.message (.setLine n line))) =
        (.reply (.error (.command (.noLine n))), b) ∧
      b.step (.start id (.message (.deleteLine n))) =
        (.reply (.error (.command (.noLine n))), b) := by
  have here : b.desk.workspace.currentSession? = some s := current
  constructor
  · refine step_of_say ?_
    simp [Desk.plan, Desk.planEdit, here, Text.replaceLine_eq_none_iff.2 outside, Desk.orNoLine]
  · refine step_of_say ?_
    simp [Desk.plan, Desk.planEdit, here, Text.deleteLine_eq_none_iff.2 outside, Desk.orNoLine]

theorem step_of_busy {b : Bench} {s : Session} (flushed : b.desk.workspace.outbox = [])
    (current : b.currentSession? = some s) (busy : s.saving = true) (id : Nat) :
    b.step (.start id (.message .save)) = (.reply (.error (.busy s.path)), b) := by
  obtain ⟨path, opened⟩ := Workspace.currentSession?_eq_some.1 current
  have fails : b.desk.Fails .save (.busy s.path) := .busy (beq_iff_eq.2 path) opened busy
  have done := congrArg Prod.fst (Desk.begin_of_fails fails)
  refine Prod.ext ?_ (step_of_fails flushed rfl fails)
  change (b.begin id .save (some .saved)).1 = _
  rw [begin_done done]
  exact settle_fst _ _ _

theorem task?_concat {b : Bench} {t : BenchTask} (desk : Desk) (fresh : b.task? t.id = none) :
    task? { b with desk, tasks := b.tasks ++ [t] } t.id = some t := by
  rw [task?] at fresh
  rw [task?, List.find?_append, fresh]
  simp

theorem without_concat {b : Bench} {t : BenchTask} (desk : Desk) (fresh : b.task? t.id = none) :
    without t.id { b with desk, tasks := b.tasks ++ [t] } = { b with desk } := by
  have others : ∀ t' ∈ b.tasks, ¬(t'.id == t.id) = true := by simpa [task?] using fresh
  rw [without, List.eraseP_append_right _ others]
  simp

theorem finish_of_begin {b : Bench} {d : Desk} {a : Act} {id : Nat} {pending : Pending}
    {failure : Failure} (flushed : b.desk.workspace.outbox = []) (fresh : b.task? id = none)
    (begun : b.desk.begin a = (.waits pending, d))
    (fails : (d.land pending (b.disk.access pending.access).1).1 = .error failure)
    (report : Option Report) : (b.begin id a report).2.step (.finish id) =
      (b.desk.echo report (.error failure), { b with desk := d.refused pending }) := by
  have waits : (b.desk.begin a).1 = .waits pending := congrArg Prod.fst begun
  have desk : (b.desk.begin a).2 = d := congrArg Prod.snd begun
  have kept : d.workspace.outbox = [] := desk ▸ (Desk.outbox_begin waits).trans flushed
  have found := task?_concat (t := ⟨id, pending, report⟩) d fresh
  have left := without_concat (t := ⟨id, pending, report⟩) d fresh
  rw [begin_waits waits, desk, step_of_refused kept found fails, refused, left]
  exact congrArg (·, _) (Desk.echo_error _ _ _ _)

theorem step_of_unsaved {b : Bench} {id : Nat} {s : Session}
    (flushed : b.desk.workspace.outbox = []) (apart : b.desk.workspace.paths.Nodup)
    (current : b.currentSession? = some s) (free : s.saving = false)
    (refuses : b.disk.failWrites = true) (fresh : b.task? id = none) :
    (b.step (.start id (.message .save))).1 = .waits ∧
      (b.step (.start id (.message .save))).2.step (.finish id) =
        (.reply (.error (.io .writeRefused)), b) := by
  obtain ⟨path, opened⟩ := Workspace.currentSession?_eq_some.1 current
  have saves : b.desk.saves s.path .save = true := beq_iff_eq.2 path
  have begun : b.desk.begin .save = b.desk.within (.waits (.saving s.path s.working),
      b.desk.workspace.modify s.path fun _ => { s with saving := true }) := by
    rw [Desk.begin_of_saves saves, Workspace.savePath_of_free opened free]
  have step : b.step (.start id (.message .save)) = b.begin id .save (some .saved) := rfl
  rw [step]
  constructor
  · rw [begin_waits (congrArg Prod.fst begun)]
  · rw [finish_of_begin flushed fresh begun (Desk.land_of_failWrites refuses)]
    simp only [Desk.refused, Workspace.modify_saving apart opened free]
    rfl

theorem refusal_leaves_everything (u : Setup) (es : List Event) (id : Nat) :
    (∀ m failure, m.mustPersist = false →
      ((u.bench.run es).step (.start id (.message m))).1.failure? = some failure →
        ((u.bench.run es).step (.start id (.message m))).2 = u.bench.run es) ∧
    (∀ t failure, (u.bench.run es).task? id = some t →
      ((u.bench.run es).step (.finish id)).1.failure? = some failure →
        (∃ cause, failure = .io cause) ∧
          ((u.bench.run es).step (.finish id)).2 = (u.bench.run es).refused t) ∧
    (∀ t path cause, (u.bench.run es).task? id = some t → t.pending = .opening path →
      (u.bench.run es).disk.read path = .error cause →
        (u.bench.run es).step (.finish id) =
          ((u.bench.run es).desk.echo t.report (.error (.io cause)),
            (u.bench.run es).without id)) ∧
    (∀ s, (u.bench.run es).currentSession? = some s →
      (∀ n line, n = 0 ∨ s.working.lineCount < n →
        (u.bench.run es).step (.start id (.message (.setLine n line))) =
            (.reply (.error (.command (.noLine n))), u.bench.run es) ∧
          (u.bench.run es).step (.start id (.message (.deleteLine n))) =
            (.reply (.error (.command (.noLine n))), u.bench.run es)) ∧
      (s.saving = true → (u.bench.run es).step (.start id (.message .save)) =
        (.reply (.error (.busy s.path)), u.bench.run es)) ∧
      (s.saving = false → (u.bench.run es).disk.failWrites = true →
        (u.bench.run es).task? id = none →
          ((u.bench.run es).step (.start id (.message .save))).1 = .waits ∧
          ((u.bench.run es).step (.start id (.message .save))).2.step (.finish id) =
            (.reply (.error (.io .writeRefused)), u.bench.run es))) := by
  have flushed := outbox_run u es
  have apart := (coherent_run u es).opened
  refine ⟨fun m failure => step_of_failure flushed, fun t failure => finish_of_failure flushed,
    fun t path cause => step_of_unread flushed, fun s current => ⟨fun n line outside => ?_,
      fun busy => step_of_busy flushed current busy id, step_of_unsaved flushed apart current⟩⟩
  exact step_of_noLine current outside id line

theorem failed_save_ends_where_it_began :
    let b := (Setup.ofFiles [(['a'], ['x'])]).bench.run
      [.start 0 (.act (.openFile ['a'])), .finish 0, .start 1 (.act (.edit ['y'])),
        .failWrites true]
    let saving := (b.step (.start 2 (.message .save))).2
    saving.session? ['a'] = some ⟨1, ['a'], ['x'], ['y'], true, 0⟩ ∧
      saving.step (.finish 2) = (.reply (.error (.io .writeRefused)), b) := by
  obtain ⟨-, -, -, here⟩ := refusal_leaves_everything (Setup.ofFiles [(['a'], ['x'])])
    [.start 0 (.act (.openFile ['a'])), .finish 0, .start 1 (.act (.edit ['y'])), .failWrites true]
    2
  obtain ⟨-, -, unsaved⟩ := here ⟨1, ['a'], ['x'], ['y'], false, 0⟩ (by decide)
  exact ⟨by decide, (unsaved rfl (by decide) (by decide)).2⟩

end Bench
end ScriptDesk
