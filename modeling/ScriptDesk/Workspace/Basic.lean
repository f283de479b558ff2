import ScriptDesk.Desk.Stage
import ScriptDesk.Layout
import ScriptDesk.Registry
import ScriptDesk.Settings.Basic

/-! Known scripts, open sessions and the current script.  The generation grows whenever another
script, or none, becomes current.  Settings that changed wait in the outbox to be written. -/

namespace ScriptDesk

/-- Like the ids of sessions, the generation stands for a 64-bit counter: runs are meant to change
the current script fewer than 2 ^ 64 times. -/
structure Workspace where
  registry : Registry
  sessions : Sessions
  generation : Nat
  nextId : Nat
  settings : Settings
  /-- Oldest first. -/
  outbox : List Settings
  deriving DecidableEq, Repr

namespace Workspace

def ofSettings (s : Settings) : Workspace where
  registry := .ofRecent s.recentFiles
  sessions := []
  generation := 0
  nextId := 1
  settings := s
  outbox := []

def current? (w : Workspace) : Option Text := w.registry.current

def session? (w : Workspace) (path : Text) : Option Session := w.sessions.get? path

def currentSession? (w : Workspace) : Option Session := w.current?.bind w.session?

def modify (path : Text) (f : Session → Session) (w : Workspace) : Workspace :=
  { w with sessions := w.sessions.modify path f }

def remember (change : Option Settings) (w : Workspace) : Workspace :=
  match change with
  | none => w
  | some s => { w with settings := s, outbox := w.outbox ++ [s] }

def turnTo (path : Text) (w : Workspace) : Workspace :=
  let registry := w.registry.add (.ofPath path)
  if registry.current = some path then { w with registry }
  else { w with registry := registry.setCurrent path, generation := w.generation + 1 }

def note (path : Text) (added : Bool) (w : Workspace) : Workspace :=
  let w := if added then w.remember (w.settings.addRecent? (.ofPath path)) else w
  w.remember (w.settings.setActive? (some path))

def makeCurrent (path : Text) (w : Workspace) : Except Failure Session × Workspace :=
  let turned := w.turnTo path
  match turned.session? path with
  | none => (.error (.unknownFile path), turned)
  | some s => (.ok s, turned.note path (!w.registry.contains path))

def makeCurrentStage (path : Text) (w : Workspace) : Stage × Workspace :=
  let (r, w) := w.makeCurrent path
  (.done (r.map .session), w)

/-- Open a file.  A session that is held is shown as it is, without a look at the disk. -/
def openFile (path : Text) (w : Workspace) : Stage × Workspace :=
  if (w.session? path).any Session.held then w.makeCurrentStage path
  else (.waits (.opening path), w)

def receive (path content : Text) (w : Workspace) : Workspace :=
  match w.session? path with
  | none =>
    { w with
      sessions := w.sessions.insert (.loaded w.nextId path content)
      nextId := w.nextId + 1 }
  | some s =>
    if s.held || s.baseline == content then w else w.modify path (Session.reset content)

def landOpening (path : Text) (read : Except IoError Text) (w : Workspace) : Result × Workspace :=
  match read with
  | .error e => (.error (.io e), w)
  | .ok content =>
    let (r, w) := (w.receive path content).makeCurrent path
    (r.map .session, w)

def select (path : Text) (w : Workspace) : Stage × Workspace :=
  if !w.registry.contains path then (.done (.error (.unknownFile path)), w)
  else if (w.session? path).isSome then w.makeCurrentStage path
  else w.openFile path

def restore (w : Workspace) : Stage × Workspace :=
  match w.settings.activeFile with
  | none => (.done (.ok .nothing), w)
  | some path =>
    if w.registry.contains path then w.select path else (.done (.ok .nothing), w)

def remove (path : Text) (w : Workspace) : Workspace :=
  let generation := if w.current? = some path then w.generation + 1 else w.generation
  let forgotten : Workspace :=
    { w with
      registry := w.registry.remove path
      sessions := w.sessions.erase path
      generation }
  forgotten.remember (w.settings.removeRecent? path)

def edit (text : Text) (w : Workspace) : Result × Workspace :=
  match w.currentSession? with
  | none => (.error .noActiveSession, w)
  | some s => (.ok (.session (s.edit text)), w.modify s.path (Session.edit text))

def format (w : Workspace) : Result × Workspace :=
  match w.currentSession? with
  | none => (.error .noActiveSession, w)
  | some s =>
    let formatted := Layout.format s.working
    if formatted = s.working then (.ok (.formatted false), w)
    else (.ok (.formatted true), w.modify s.path (Session.edit formatted))

def savePath (path : Text) (w : Workspace) : Stage × Workspace :=
  match w.session? path with
  | none => (.done (.error (.unknownFile path)), w)
  | some s =>
    match s.beginSave? with
    | none => (.done (.error (.busy path)), w)
    | some begun => (.waits (.saving path s.working), w.modify path fun _ => begun)

def save (w : Workspace) : Stage × Workspace :=
  match w.current? with
  | none => (.done (.error .noActiveSession), w)
  | some path => w.savePath path

/-- The session that is at the path by now finishes the save. -/
def landSaving (path text : Text) (write : Except IoError Unit) (w : Workspace) :
    Result × Workspace :=
  match write with
  | .ok () => (.ok .done, w.modify path (Session.finishSave (some text)))
  | .error e => (.error (.io e), w.modify path (Session.finishSave none))

end Workspace
end ScriptDesk
