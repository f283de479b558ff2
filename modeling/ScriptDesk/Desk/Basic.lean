import ScriptDesk.Watch

namespace ScriptDesk

structure Desk where
  workspace : Workspace
  watch : Watch
  focused : Bool
  deriving DecidableEq, Repr

inductive Act
  | openFile (path : Text)
  | select (path : Text)
  | restore
  | save
  | savePath (path : Text)
  | check
  | focus (now : Bool)
  | remove (path : Text)
  | edit (text : Text)
  | format
  | resolve (r : Resolution)
  | setTheme (t : Theme)
  | shutDown
  deriving DecidableEq, Repr

namespace Desk

def ofSettings (s : Settings) : Desk := ⟨.ofSettings s, .idle, true⟩

def within (d : Desk) (r : α × Workspace) : α × Desk := (r.1, { d with workspace := r.2 })

def check (d : Desk) : Stage × Desk :=
  let (claimed, watch) := d.watch.claim d.workspace
  let d := { d with watch }
  match claimed with
  | .error reason => (.done (.ok (.verdict (.skipped reason))), d)
  | .ok ticket => (.waits (.checking ticket), d)

def begin (d : Desk) : Act → Stage × Desk
  | .openFile path => d.within (d.workspace.openFile path)
  | .select path => d.within (d.workspace.select path)
  | .restore => d.within d.workspace.restore
  | .save => d.within d.workspace.save
  | .savePath path => d.within (d.workspace.savePath path)
  | .check => d.check
  | .focus now =>
    let d' := { d with focused := now }
    if regained d.focused now then d'.check else (.done (.ok .nothing), d')
  | .remove path => d.within (.done (.ok .done), d.workspace.remove path)
  | .edit text =>
    let (r, w) := d.workspace.edit text
    d.within (.done r, w)
  | .format =>
    let (r, w) := d.workspace.format
    d.within (.done r, w)
  | .resolve r =>
    let (settled, workspace, watch) := d.watch.resolve r d.workspace
    let outcome := settled.map fun s => (s.map Outcome.session).getD .nothing
    (.done outcome, { d with workspace, watch })
  | .setTheme t =>
    d.within (.done (.ok .done), d.workspace.remember (some (d.workspace.settings.setTheme t)))
  | .shutDown => (.done (.ok .nothing), { d with watch := { d.watch with shutDown := true } })

def land (d : Desk) : (p : Pending) → p.access.Result → Result × Desk
  | .opening path, read => d.within (d.workspace.landOpening path read)
  | .saving path text, write => d.within (d.workspace.landSaving path text write)
  | .checking ticket, read =>
    let (verdict, workspace, watch) := d.watch.land ticket read d.workspace
    (.ok (.verdict verdict), { d with workspace, watch })

/-- Give an act up between its stages.  A check leaves the read slot; a save stays under way. -/
def abandon (d : Desk) : Pending → Desk
  | .checking _ => { d with watch := d.watch.release }
  | _ => d

end Desk

/-- Whether an act fails when the settings it changed cannot be written. -/
def Act.mustPersist : Act → Bool
  | .remove _ | .setTheme _ => true
  | _ => false

end ScriptDesk
