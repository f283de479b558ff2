import ScriptDesk.Desk.Report
import ScriptDesk.Settings.Store
import ScriptDesk.Terminal

/-! Acts from beginning to end.  Settings that changed are written before an act is answered. -/

namespace ScriptDesk

variable {m : Type → Type} [Monad m] [Host m]

/-- Write settings in order; what became of the last of them. -/
def writeAll (location : Text) : List Settings → m (Except IoError Unit)
  | [] => return .ok ()
  | [s] => s.save location
  | s :: t :: rest => do
    let _ ← s.save location
    writeAll location (t :: rest)

namespace Desk

def flush (location : Option Text) (d : Desk) : m (Except IoError Unit × Desk) := do
  let written ← match location with
    | some location => writeAll location d.workspace.outbox
    | none => pure (.ok ())
  return (written, { d with workspace := { d.workspace with outbox := [] } })

def conclude (location : Option Text) (mustPersist : Bool) (r : Result) (d : Desk) :
    m (Result × Desk) := do
  let (written, d) ← d.flush location
  match written with
  | .error e => return (if mustPersist then .error (.io e) else r, d)
  | .ok () => return (r, d)

def terminalReply (dir : Text) : Option Text → Except Failure Reply
  | some program => .ok (.text ("Opened ".toList ++ program ++ " in ".toList ++ dir))
  | none => .error (.command .noTerminal)

def startTerminal (preferred : Option Text) (dir : Text) : m (Except Failure Reply) := do
  return terminalReply dir
    (← Terminal.firstStarting (Host.starts dir) (Terminal.candidates preferred))

def perform (location preferred : Option Text) (d : Desk) : Plan → m (Except Failure Reply × Desk)
  | .say r => return (r, d)
  | .startTerminal dir => return (← startTerminal preferred dir, d)
  | .act a report => do
    match d.begin a with
    | (.done r, d) =>
      let (r, d) ← d.conclude location a.mustPersist r
      return (d.reply report r, d)
    | (.waits p, d) =>
      let result ← p.access.run
      let (r, d) := d.land p result
      let (r, d) ← d.conclude location false r
      return (d.reply report r, d)

end Desk
end ScriptDesk
