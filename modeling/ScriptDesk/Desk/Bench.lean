import ScriptDesk.Desk.Perform
import ScriptDesk.Host.Tree

/-! A desk on a disk in memory, with acts between their stages.  Events come in any order: acts
begin, land and are given up, and the disk changes from outside. -/

namespace ScriptDesk

inductive Job
  | act (a : Act)
  | message (m : Message)
  | restore
  | shutDown
  deriving DecidableEq, Repr

structure BenchTask where
  id : Nat
  pending : Pending
  report : Option Report
  deriving DecidableEq, Repr

structure Bench where
  desk : Desk
  disk : Disk
  location : Option Text
  tree : FileTree
  terminal : Option Text
  tasks : List BenchTask

inductive Echo
  | silent
  | waits
  | dropped
  | noTask
  | outcome (r : Result)
  | reply (r : Except Failure Reply)

inductive Event
  | start (id : Nat) (job : Job)
  | finish (id : Nat)
  | drop (id : Nat)
  | insert (path text : Text)
  | delete (path : Text)
  | failReads (on : Bool)
  | failWrites (on : Bool)
  deriving DecidableEq, Repr

namespace Bench

def task? (b : Bench) (id : Nat) : Option BenchTask := b.tasks.find? (·.id == id)

def without (id : Nat) (b : Bench) : Bench := { b with tasks := b.tasks.eraseP (·.id == id) }

def settle (mustPersist : Bool) (report : Option Report) (r : Result) (b : Bench) : Echo × Bench :=
  let ((r, desk), tree) := (b.desk.conclude b.location mustPersist r : StateM FileTree _).run b.tree
  let echo := match report with
    | none => .outcome r
    | some report => .reply (desk.reply report r)
  (echo, { b with desk, tree })

def begin (id : Nat) (a : Act) (report : Option Report) (b : Bench) : Echo × Bench :=
  match b.desk.begin a with
  | (.done r, desk) => { b with desk }.settle a.mustPersist report r
  | (.waits pending, desk) => (.waits, { b with desk, tasks := b.tasks ++ [⟨id, pending, report⟩] })

def carryOut (id : Nat) (b : Bench) : Plan → Echo × Bench
  | .say r => (.reply r, b)
  | .startTerminal dir =>
    let (r, tree) := (Desk.startTerminal b.terminal dir : StateM FileTree _).run b.tree
    (.reply r, { b with tree })
  | .act a report => b.begin id a (some report)

def start (id : Nat) (b : Bench) : Job → Echo × Bench
  | .act a => b.begin id a none
  | .message m => b.carryOut id (b.desk.plan m)
  | .restore => b.carryOut id Desk.planRestore
  | .shutDown => b.carryOut id Desk.planShutDown

def land (t : BenchTask) (b : Bench) : Echo × Bench :=
  let (result, disk) := b.disk.access t.pending.access
  let (r, desk) := b.desk.land t.pending result
  { b with desk, disk }.settle false t.report r

def step (b : Bench) : Event → Echo × Bench
  | .start id job => b.start id job
  | .finish id =>
    match b.task? id with
    | none => (.noTask, b)
    | some t => (b.without id).land t
  | .drop id =>
    match b.task? id with
    | none => (.noTask, b)
    | some t => (.dropped, { b.without id with desk := b.desk.abandon t.pending })
  | .insert path text => (.silent, { b with disk := b.disk.insert path text })
  | .delete path => (.silent, { b with disk := b.disk.delete path })
  | .failReads on => (.silent, { b with disk := { b.disk with failReads := on } })
  | .failWrites on => (.silent, { b with disk := { b.disk with failWrites := on } })

def run (b : Bench) (events : List Event) : Bench := events.foldl (fun b e => (b.step e).2) b

@[simp] theorem run_nil (b : Bench) : b.run [] = b := rfl

@[simp] theorem run_cons (b : Bench) (e : Event) (es : List Event) :
    b.run (e :: es) = (b.step e).2.run es := rfl

theorem run_append (b : Bench) (es fs : List Event) : b.run (es ++ fs) = (b.run es).run fs := by
  simp [run]

end Bench
end ScriptDesk
