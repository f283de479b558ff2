import ScriptDesk.Proofs.Lineage

namespace ScriptDesk
namespace Desk

def report? (d : Desk) : Job → Option Report
  | .act _ => none
  | .message m =>
    match d.plan m with
    | .act _ report => some report
    | _ => none
  | .restore => some .restored
  | .shutDown => some .silent

def echo (d : Desk) (report : Option Report) (r : Result) : Echo :=
  match report with
  | none => .outcome r
  | some report => .reply (d.reply report r)

theorem outbox_begin {d : Desk} {a : Act} {pending : Pending}
    (h : (d.begin a).1 = .waits pending) :
    (d.begin a).2.workspace.outbox = d.workspace.outbox := by
  have shows {r : Stage × Workspace} (shows : d.workspace.Shows r) (h : r.1 = .waits pending) :
      r.2.outbox = d.workspace.outbox := by
    cases shows with
    | reads path => rfl
    | _ => cases h
  cases a with
  | openFile path => exact shows (d.workspace.shows_openFile path) h
  | select path =>
    cases known : d.workspace.registry.contains path with
    | true => exact shows (Workspace.shows_select known) h
    | false => exact congrArg (·.2.outbox) (Workspace.select_of_unknown known)
  | restore => exact shows d.workspace.shows_restore h
  | save => exact d.workspace.touches_save.outbox
  | savePath path => exact (d.workspace.touches_savePath path).outbox
  | check => rw [begin, check_snd]
  | focus now => rw [workspace_begin_focus]
  | _ => cases h

end Desk

namespace Bench

def Answers (b : Bench) (e : Event) (r : Result) : Prop :=
  ∃ id job, e = .start id job ∧
    (b.step e).1 = (b.step e).2.desk.echo (b.desk.report? job) r

theorem answers_act {b : Bench} {id : Nat} {a : Act} {r : Result} :
    b.Answers (.start id (.act a)) r ↔ (b.step (.start id (.act a))).1 = .outcome r := by
  simp [Answers, Desk.report?, Desk.echo]

theorem settle_fst (report : Option Report) (r : Result) (b : Bench) :
    (b.settle false report r).1 = (b.settle false report r).2.desk.echo report r := by
  rcases b with ⟨desk, disk, _ | location, tree, terminal, tasks⟩
  · cases report <;> rfl
  · cases h : (writeAll location desk.workspace.outbox : StateM FileTree _).run tree with
    | mk written tree' =>
      simp only [settle, Desk.conclude, Desk.flush, StateT.run_bind, bind_assoc, h]
      cases written <;> cases report <;> rfl

theorem begin_done {b : Bench} {a : Act} {r : Result} (done : (b.desk.begin a).1 = .done r)
    (id : Nat) (report : Option Report) :
    b.begin id a report =
      { b with desk := (b.desk.begin a).2 }.settle a.mustPersist report r := by
  unfold begin
  rcases hd : b.desk.begin a with ⟨r' | pending, desk⟩
  · rw [hd] at done
    cases done
    rfl
  · rw [hd] at done
    cases done

theorem begin_waits {b : Bench} {a : Act} {pending : Pending}
    (waits : (b.desk.begin a).1 = .waits pending) (id : Nat) (report : Option Report) :
    b.begin id a report =
      (.waits, { b with
        desk := (b.desk.begin a).2
        tasks := b.tasks ++ [⟨id, pending, report⟩] }) := by
  unfold begin
  rcases hd : b.desk.begin a with ⟨r | pending', desk⟩
  · rw [hd] at waits
    cases waits
  · rw [hd] at waits
    cases waits
    rfl

theorem step_eq_begin {b : Bench} {e : Event} {a : Act} (asked : b.asked? e = some a) :
    ∃ id job, e = .start id job ∧ b.step e = b.begin id a (b.desk.report? job) := by
  cases e with
  | start id job =>
    refine ⟨id, job, rfl, ?_⟩
    cases job with
    | message m =>
      simp only [asked?, Desk.act?] at asked
      split at asked
      · next planned =>
        cases asked
        simp only [step, start, planned, carryOut, Desk.report?]
      · cases asked
    | _ =>
      cases asked
      rfl
  | _ => cases asked

theorem answers_of_done {b : Bench} {e : Event} {a : Act} {r : Result}
    (asked : b.asked? e = some a) (done : (b.desk.begin a).1 = .done r)
    (free : a.mustPersist = false) : b.Answers e r := by
  obtain ⟨id, job, event, begun⟩ := step_eq_begin asked
  refine ⟨id, job, event, ?_⟩
  rw [begun, begin_done done, free]
  exact settle_fst _ r _

theorem echo_of_finished {b : Bench} {e : Event} {t : BenchTask}
    (finished : b.finished? e = some t) : (b.step e).1 = (b.step e).2.desk.echo t.report
      (b.desk.land t.pending (b.disk.access t.pending.access).1).1 := by
  cases e with
  | finish id =>
    have task : b.task? id = some t := finished
    simp only [step, task]
    exact settle_fst t.report _ _
  | _ => cases finished

theorem settle_of_flushed {b : Bench} (mustPersist : Bool) (report : Option Report) (r : Result)
    (flushed : b.desk.workspace.outbox = []) : (b.settle mustPersist report r).2 = b := by
  rcases b with ⟨⟨⟨registry, sessions, generation, nextId, settings, outbox⟩, watch, focused⟩,
    disk, _ | location, tree, terminal, tasks⟩
  all_goals
    cases flushed
    rfl

theorem step_of_idle {b : Bench} {e : Event} {a : Act} {r : Result}
    (flushed : b.desk.workspace.outbox = []) (asked : b.asked? e = some a)
    (idle : b.desk.begin a = (.done r, b.desk)) : (b.step e).2 = b := by
  obtain ⟨id, job, -, begun⟩ := step_eq_begin asked
  have done : (b.desk.begin a).1 = .done r := congrArg Prod.fst idle
  have same : (b.desk.begin a).2 = b.desk := congrArg Prod.snd idle
  rw [begun, begin_done done, same]
  exact settle_of_flushed _ _ _ flushed

theorem outbox_step (b : Bench) (e : Event) (flushed : b.desk.workspace.outbox = []) :
    (b.step e).2.desk.workspace.outbox = [] := by
  cases asked : b.asked? e with
  | some a =>
    obtain ⟨id, job, -, begun⟩ := step_eq_begin asked
    rw [begun]
    cases stage : (b.desk.begin a).1 with
    | done r =>
      obtain ⟨tree, settled⟩ := settle_snd a.mustPersist (b.desk.report? job) r
        { b with desk := (b.desk.begin a).2 }
      rw [begin_done stage, settled]
      rfl
    | waits pending =>
      rw [begin_waits stage]
      exact (Desk.outbox_begin stage).trans flushed
  | none =>
    cases b.move e with
    | begins event asked' => simp [asked] at asked'
    | lands finished desk disk tasks => rw [desk]; rfl
    | drops dropped desk disk tasks => rwa [desk, Desk.workspace_abandon]
    | rests asked' finished dropped desk tasks => rwa [desk]

theorem outbox_run (u : Setup) (es : List Event) :
    (u.bench.run es).desk.workspace.outbox = [] :=
  invariant (fun _ => rfl) outbox_step u es

end Bench
end ScriptDesk
