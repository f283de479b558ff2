import ScriptDesk.Entry
import ScriptDesk.Theme

/-! The settings, and the changes made to them.  A change that changes nothing is none: there is
nothing to write then. -/

namespace ScriptDesk

structure Settings where
  /-- Newest first. -/
  recentFiles : List Entry := []
  activeFile : Option Text := none
  theme : Theme := .light
  checkInterval : UInt64 := 5
  maxRecent : UInt64 := 20
  deriving DecidableEq, Repr

namespace Settings

def interval (s : Settings) : Nat := max s.checkInterval.toNat 1

def capacity (s : Settings) : Nat := max s.maxRecent.toNat 1

def knows (s : Settings) (path : Text) : Bool := s.recentFiles.any (·.path == path)

def addRecent? (e : Entry) (s : Settings) : Option Settings :=
  if s.knows e.path then none
  else some { s with recentFiles := (e :: s.recentFiles).take s.capacity }

def removeRecent? (path : Text) (s : Settings) : Option Settings :=
  if s.knows path || s.activeFile == some path then
    some { s with
      recentFiles := s.recentFiles.filter (·.path != path)
      activeFile := if s.activeFile = some path then none else s.activeFile }
  else none

def setActive? (path : Option Text) (s : Settings) : Option Settings :=
  if s.activeFile = path then none else some { s with activeFile := path }

/-- A theme is written even if it was set before. -/
def setTheme (t : Theme) (s : Settings) : Settings := { s with theme := t }

end Settings
end ScriptDesk
