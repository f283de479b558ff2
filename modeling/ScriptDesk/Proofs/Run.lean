import ScriptDesk.Desk.Bench
import Mathlib.Data.List.Induction

/-! Runs of a bench.  A step begins an act, lands a task, gives a task up, or leaves the desk alone;
`Bench.move` says which, and what becomes of the desk, the disk and the tasks.  Every pending task
was begun by some step of the run and has been pending since. -/

namespace ScriptDesk

def Desk.act? (d : Desk) : Job → Option Act
  | .act a => some a
  | .message m =>
    match d.plan m with
    | .act a _ => some a
    | _ => none
  | .restore => some .restore
  | .shutDown => some .shutDown

def Desk.flushed (d : Desk) : Desk := { d with workspace := { d.workspace with outbox := [] } }

@[simp] theorem Desk.watch_flushed (d : Desk) : d.flushed.watch = d.watch := rfl

@[simp] theorem Desk.session?_flushed (d : Desk) (path : Text) :
    d.flushed.workspace.session? path = d.workspace.session? path := rfl

@[simp] theorem Desk.current?_flushed (d : Desk) :
    d.flushed.workspace.current? = d.workspace.current? := rfl

@[simp] theorem Desk.nextId_flushed (d : Desk) :
    d.flushed.workspace.nextId = d.workspace.nextId := rfl

@[simp] theorem Desk.flushed_flushed (d : Desk) : d.flushed.flushed = d.flushed := rfl

def Stage.tasks (id : Nat) (report : Option Report) : Stage → List BenchTask
  | .done _ => []
  | .waits pending => [⟨id, pending, report⟩]

namespace Bench

def session? (b : Bench) (path : Text) : Option Session := b.desk.workspace.session? path

def currentSession? (b : Bench) : Option Session := b.desk.workspace.currentSession?

def current? (b : Bench) : Option Text := b.desk.workspace.current?

def conflict? (b : Bench) : Option Conflict := b.desk.watch.conflict

def Holds (b : Bench) (path : Text) (id : Nat) : Prop := ∃ s, b.session? path = some s ∧ s.id = id

def asked? (b : Bench) : Event → Option Act
  | .start _ job => b.desk.act? job
  | _ => none

def finished? (b : Bench) : Event → Option BenchTask
  | .finish id => b.task? id
  | _ => none

def dropped? (b : Bench) : Event → Option BenchTask
  | .drop id => b.task? id
  | _ => none

theorem asked?_of_finished {b : Bench} {e : Event} {t : BenchTask} (h : b.finished? e = some t) :
    b.asked? e = none := by
  cases e <;> first | rfl | cases h

theorem asked?_of_dropped {b : Bench} {e : Event} {t : BenchTask} (h : b.dropped? e = some t) :
    b.asked? e = none := by
  cases e <;> first | rfl | cases h

theorem finished?_of_dropped {b : Bench} {e : Event} {t : BenchTask} (h : b.dropped? e = some t) :
    b.finished? e = none := by
  cases e <;> first | rfl | cases h

/-- What a step comes down to: the desk, the disk and the tasks after it.  Whether an act has
emptied the outbox is left open. -/
inductive Move (b : Bench) (e : Event) (b' : Bench) : Prop
  | begins {a : Act} {id : Nat} {job : Job} {report : Option Report}
      (event : e = .start id job)
      (asked : b.asked? e = some a)
      (desk : b'.desk.flushed = (b.desk.begin a).2.flushed)
      (disk : b'.disk = b.disk)
      (tasks : b'.tasks = b.tasks ++ (b.desk.begin a).1.tasks id report)
  | lands {t : BenchTask} (finished : b.finished? e = some t)
      (desk : b'.desk = (b.desk.land t.pending (b.disk.access t.pending.access).1).2.flushed)
      (disk : b'.disk = (b.disk.access t.pending.access).2)
      (tasks : b'.tasks = (b.without t.id).tasks)
  | drops {t : BenchTask} (dropped : b.dropped? e = some t)
      (desk : b'.desk = b.desk.abandon t.pending)
      (disk : b'.disk = b.disk)
      (tasks : b'.tasks = (b.without t.id).tasks)
  | rests (asked : b.asked? e = none) (finished : b.finished? e = none)
      (dropped : b.dropped? e = none)
      (desk : b'.desk = b.desk)
      (tasks : b'.tasks = b.tasks)

theorem settle_snd (mustPersist : Bool) (report : Option Report) (r : Result) (b : Bench) :
    ∃ tree, (b.settle mustPersist report r).2 = { b with desk := b.desk.flushed, tree } := by
  rcases b with ⟨desk, disk, _ | location, tree, terminal, tasks⟩
  · exact ⟨tree, rfl⟩
  · cases h : (writeAll location desk.workspace.outbox : StateM FileTree _).run tree with
    | mk written tree' =>
      refine ⟨tree', ?_⟩
      simp only [settle, Desk.conclude, Desk.flush, StateT.run_bind, bind_assoc, h]
      cases written <;> rfl

theorem begin_move (id : Nat) (job : Job) (a : Act) (report : Option Report) (b : Bench)
    (h : b.desk.act? job = some a) : Move b (.start id job) (b.begin id a report).2 := by
  apply @Move.begins b _ _ a id job report rfl h
  all_goals
    rcases hd : b.desk.begin a with ⟨r | pending, desk⟩
    · obtain ⟨tree, ht⟩ := settle_snd a.mustPersist report r { b with desk }
      simp [begin, hd, ht, Stage.tasks]
    · simp [begin, hd, Stage.tasks]

theorem land_move (t : BenchTask) (b : Bench) (e : Event) (h : b.finished? e = some t) :
    Move b e ((b.without t.id).land t).2 := by
  obtain ⟨tree, ht⟩ := settle_snd false t.report
    (b.desk.land t.pending (b.disk.access t.pending.access).1).1
    { b.without t.id with
      desk := (b.desk.land t.pending (b.disk.access t.pending.access).1).2
      disk := (b.disk.access t.pending.access).2 }
  have hl : ((b.without t.id).land t).2 = _ := ht
  apply Move.lands h
  all_goals rw [hl]

theorem id_of_task? {b : Bench} {id : Nat} {t : BenchTask} (h : b.task? id = some t) :
    t.id = id := by
  simpa using List.find?_some h

theorem move (b : Bench) (e : Event) : Move b e (b.step e).2 := by
  cases e with
  | start id job =>
    cases job with
    | act a => exact begin_move id _ a none b rfl
    | message m =>
      cases hp : b.desk.plan m with
      | act a report =>
        simpa [step, start, carryOut, hp] using
          begin_move id (.message m) a (some report) b (by simp [Desk.act?, hp])
      | say r =>
        apply Move.rests <;>
          simp [asked?, finished?, dropped?, Desk.act?, step, start, carryOut, hp]
      | startTerminal dir =>
        have hs : (b.step (.start id (.message m))).2 = { b with tree :=
            ((Desk.startTerminal b.terminal dir : StateM FileTree _).run b.tree).2 } := by
          simp only [step, start, carryOut, hp]
          rfl
        rw [hs]
        exact .rests (by simp [asked?, Desk.act?, hp]) rfl rfl rfl rfl
    | restore => exact begin_move id _ .restore (some .restored) b rfl
    | shutDown => exact begin_move id _ .shutDown (some .silent) b rfl
  | finish id =>
    cases ht : b.task? id with
    | none => apply Move.rests <;> simp [asked?, finished?, dropped?, step, ht]
    | some t =>
      have := land_move t b (.finish id) ht
      simpa [step, ht, id_of_task? ht] using this
  | drop id =>
    cases ht : b.task? id with
    | none => apply Move.rests <;> simp [asked?, finished?, dropped?, step, ht]
    | some t =>
      have hd : b.dropped? (.drop id) = some t := ht
      apply Move.drops hd <;> simp [step, ht, without, id_of_task? ht]
  | insert path text => exact .rests rfl rfl rfl rfl rfl
  | delete path => exact .rests rfl rfl rfl rfl rfl
  | failReads on => exact .rests rfl rfl rfl rfl rfl
  | failWrites on => exact .rests rfl rfl rfl rfl rfl

theorem step_of_asked {b : Bench} {e : Event} {a : Act} (h : b.asked? e = some a) :
    (b.step e).2.desk.flushed = (b.desk.begin a).2.flushed ∧ (b.step e).2.disk = b.disk := by
  cases b.move e with
  | begins event asked desk disk tasks =>
    cases h.symm.trans asked
    exact ⟨desk, disk⟩
  | lands finished => simp [asked?_of_finished finished] at h
  | drops dropped => simp [asked?_of_dropped dropped] at h
  | rests asked => simp [asked] at h

theorem step_of_finished {b : Bench} {e : Event} {t : BenchTask} (h : b.finished? e = some t) :
    (b.step e).2.desk = (b.desk.land t.pending (b.disk.access t.pending.access).1).2.flushed ∧
      (b.step e).2.disk = (b.disk.access t.pending.access).2 := by
  cases b.move e with
  | begins event asked => simp [asked?_of_finished h] at asked
  | lands finished desk disk tasks =>
    cases h.symm.trans finished
    exact ⟨desk, disk⟩
  | drops dropped => simp [finished?_of_dropped dropped] at h
  | rests asked finished => simp [finished] at h

theorem disk_step_of_read {b : Bench} {e : Event} {t : BenchTask} {path : Text}
    (finished : b.finished? e = some t) (reads : t.pending.access = .read path) :
    (b.step e).2.disk = b.disk := by
  rw [(step_of_finished finished).2, reads]
  rfl

theorem run_concat (b : Bench) (es : List Event) (e : Event) :
    b.run (es ++ [e]) = ((b.run es).step e).2 := by
  rw [run_append]
  rfl

theorem run_keeps {P : Bench → Prop} {b : Bench} (start : P b)
    (step : ∀ b e, P b → P (b.step e).2) (es : List Event) : P (b.run es) := by
  induction es using List.reverseRecOn with
  | nil => exact start
  | append_singleton es e ih =>
    rw [run_concat]
    exact step _ e ih

def states (b : Bench) : List Event → List Bench
  | [] => [b]
  | e :: es => b :: (b.step e).2.states es

def steps (b : Bench) : List Event → List (Bench × Event)
  | [] => []
  | e :: es => (b, e) :: (b.step e).2.steps es

theorem states_concat (b : Bench) (es : List Event) (e : Event) :
    b.states (es ++ [e]) = b.states es ++ [b.run (es ++ [e])] := by
  induction es generalizing b with
  | nil => rfl
  | cons f es ih => simp [states, ih]

theorem self_mem_states (b : Bench) (es : List Event) : b ∈ b.states es := by
  cases es <;> simp [states]

theorem run_mem_states (b : Bench) (es : List Event) : b.run es ∈ b.states es := by
  induction es generalizing b with
  | nil => exact List.mem_singleton_self b
  | cons e es ih => exact List.mem_cons_of_mem _ (ih _)

theorem mem_states_append {b x : Bench} {es fs : List Event} (h : x ∈ (b.run es).states fs) :
    x ∈ b.states (es ++ fs) := by
  induction es generalizing b with
  | nil => exact h
  | cons e es ih => exact List.mem_cons_of_mem _ (ih h)

theorem step_mem_states {b : Bench} {es : List Event} {x : Bench × Event} (h : x ∈ b.steps es) :
    (x.1.step x.2).2 ∈ b.states es := by
  induction es generalizing b with
  | nil => cases h
  | cons e es ih =>
    rw [steps, List.mem_cons] at h
    rw [states, List.mem_cons]
    rcases h with rfl | h
    · exact .inr (self_mem_states _ es)
    · exact .inr (ih h)

theorem fst_mem_states {b : Bench} {es : List Event} {x : Bench × Event} (h : x ∈ b.steps es) :
    x.1 ∈ b.states es := by
  induction es generalizing b with
  | nil => cases h
  | cons e es ih =>
    rw [steps, List.mem_cons] at h
    rcases h with rfl | h
    · exact self_mem_states b (e :: es)
    · exact List.mem_cons_of_mem _ (ih h)

theorem exists_of_mem_steps {b : Bench} {es : List Event} {x : Bench × Event}
    (h : x ∈ b.steps es) : ∃ es₁ es₂, es = es₁ ++ x.2 :: es₂ ∧ x.1 = b.run es₁ := by
  induction es generalizing b with
  | nil => cases h
  | cons e es ih =>
    rw [steps, List.mem_cons] at h
    rcases h with rfl | h
    · exact ⟨[], es, rfl, rfl⟩
    · obtain ⟨es₁, es₂, rfl, here⟩ := ih h
      exact ⟨e :: es₁, es₂, rfl, here⟩

theorem exists_of_mem_states {b x : Bench} {es : List Event} (h : x ∈ b.states es) :
    ∃ es₁ es₂, es = es₁ ++ es₂ ∧ x = b.run es₁ := by
  induction es generalizing b with
  | nil => exact ⟨[], [], rfl, List.mem_singleton.1 h⟩
  | cons e es ih =>
    rw [states, List.mem_cons] at h
    rcases h with rfl | h
    · exact ⟨[], e :: es, rfl, rfl⟩
    · obtain ⟨es₁, es₂, rfl, here⟩ := ih h
      exact ⟨e :: es₁, es₂, rfl, here⟩

theorem exists_since (Q : Bench → Prop) {b : Bench} {es : List Event} (start : ¬ Q b)
    (now : Q (b.run es)) :
    ∃ es₁ e es₂, es = es₁ ++ e :: es₂ ∧ ¬ Q (b.run es₁) ∧
      ∀ x ∈ ((b.run es₁).step e).2.states es₂, Q x := by
  induction es using List.reverseRecOn with
  | nil => exact absurd now start
  | append_singleton es e ih =>
    by_cases before : Q (b.run es)
    · obtain ⟨es₁, e₁, es₂, rfl, not_yet, since⟩ := ih before
      refine ⟨es₁, e₁, es₂ ++ [e], by simp, not_yet, ?_⟩
      intro x hx
      rw [states_concat, List.mem_append, List.mem_singleton] at hx
      rcases hx with hx | rfl
      · exact since x hx
      · simpa [run_append] using now
    · refine ⟨es, e, [], rfl, before, ?_⟩
      simpa [states, run_concat] using now

def Begins (b : Bench) (e : Event) (t : BenchTask) : Prop :=
  ∃ job a, e = .start t.id job ∧ b.asked? e = some a ∧ (b.desk.begin a).1 = .waits t.pending

/-- The task was begun at a bench by an event, and has been pending all through the events since. -/
structure PendingSince (b : Bench) (e : Event) (es : List Event) (t : BenchTask) : Prop where
  begun : b.Begins e t
  pending : ∀ x ∈ (b.step e).2.states es, t ∈ x.tasks

theorem mem_tasks_step {b : Bench} {e : Event} {t : BenchTask} (h : t ∈ (b.step e).2.tasks) :
    t ∈ b.tasks ∨ b.Begins e t := by
  cases b.move e with
  | @begins a id job report event asked desk disk tasks =>
    rw [tasks, List.mem_append] at h
    refine h.imp_right fun h => ?_
    cases hs : (b.desk.begin a).1 with
    | done r => simp [hs, Stage.tasks] at h
    | waits pending =>
      rw [hs, Stage.tasks, List.mem_singleton] at h
      subst h
      exact ⟨job, a, event, asked, hs⟩
  | lands finished desk disk tasks =>
    rw [tasks] at h
    exact .inl (List.mem_of_mem_eraseP h)
  | drops dropped desk disk tasks =>
    rw [tasks] at h
    exact .inl (List.mem_of_mem_eraseP h)
  | rests asked finished dropped desk tasks => exact .inl (tasks ▸ h)

theorem mem_of_task? {b : Bench} {id : Nat} {t : BenchTask} (h : b.task? id = some t) :
    t ∈ b.tasks := List.mem_of_find?_eq_some h

end Bench

structure Setup where
  settings : Settings
  disk : Disk
  location : Option Text
  tree : FileTree
  terminal : Option Text

def Setup.bench (u : Setup) : Bench where
  desk := .ofSettings u.settings
  disk := u.disk
  location := u.location
  tree := u.tree
  terminal := u.terminal
  tasks := []

def Setup.ofFiles (files : List (Text × Text)) : Setup where
  settings := {}
  disk := .ofFiles files
  location := none
  tree := ⟨[], []⟩
  terminal := none

namespace Bench

theorem invariant {P : Bench → Prop} (start : ∀ u : Setup, P u.bench)
    (step : ∀ b e, P b → P (b.step e).2) (u : Setup) (es : List Event) : P (u.bench.run es) :=
  run_keeps (start u) step es

theorem pendingSince_of_mem {u : Setup} {es : List Event} {t : BenchTask}
    (h : t ∈ (u.bench.run es).tasks) :
    ∃ es₁ e es₂, es = es₁ ++ e :: es₂ ∧ (u.bench.run es₁).PendingSince e es₂ t := by
  have start : t ∉ u.bench.tasks := by simp [Setup.bench]
  obtain ⟨es₁, e, es₂, rfl, not_yet, since⟩ := exists_since (t ∈ ·.tasks) start h
  have first : t ∈ ((u.bench.run es₁).step e).2.tasks := since _ (self_mem_states _ es₂)
  exact ⟨es₁, e, es₂, rfl, (mem_tasks_step first).resolve_left not_yet, since⟩

end Bench
end ScriptDesk
