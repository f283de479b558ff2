import ScriptDesk.Settings.Codec
import ScriptDesk.Host.Directory

namespace ScriptDesk.Settings

variable {m : Type → Type} [Monad m] [Host m]

def load (location : Text) : m Settings := do
  match ← Host.read location with
  | .ok text => return (parse? text).getD {}
  | .error _ => return {}

def save (location : Text) (s : Settings) : m (Except IoError Unit) := do
  let made ← match Path.parent location with
    | some dir => Host.makeDirs dir
    | none => pure (.ok ())
  match made with
  | .ok () => Host.write location s.print
  | .error e => return .error e

/-- Below the configuration directory if that is absolute, or the home directory's `.config`.  An
empty home directory counts as none; the account's takes its place. -/
def defaultLocation (home config account : Option Text) : Text :=
  let home := (home.filter fun h => !h.isEmpty).or account
  let dir := match config.filter Path.isAbsolute, home with
    | some dir, _ => dir
    | none, some home => Path.below home ".config".toList
    | none, none => ['.']
  Path.below (Path.below dir "bashellit".toList) "settings.json".toList

end ScriptDesk.Settings

namespace ScriptDesk

structure Store where
  settings : Settings
  location : Option Text
  deriving DecidableEq, Repr

namespace Store

variable {m : Type → Type} [Monad m] [Host m]

def openAt (location : Text) : m Store := return ⟨← Settings.load location, some location⟩

def commit (s : Store) : Option Settings → m (Except IoError Unit × Store)
  | none => return (.ok (), s)
  | some settings => do
    let written ← match s.location with
      | some location => settings.save location
      | none => pure (.ok ())
    return (written, { s with settings })

def addRecent (e : Entry) (s : Store) : m (Except IoError Unit × Store) :=
  s.commit (s.settings.addRecent? e)

def removeRecent (path : Text) (s : Store) : m (Except IoError Unit × Store) :=
  s.commit (s.settings.removeRecent? path)

def setActive (path : Option Text) (s : Store) : m (Except IoError Unit × Store) :=
  s.commit (s.settings.setActive? path)

def setTheme (t : Theme) (s : Store) : m (Except IoError Unit × Store) :=
  s.commit (some (s.settings.setTheme t))

end Store
end ScriptDesk
