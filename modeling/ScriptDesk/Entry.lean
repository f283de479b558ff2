import ScriptDesk.Path

namespace ScriptDesk

structure Entry where
  path : Text
  displayName : Text
  deriving DecidableEq, Repr

def Entry.ofPath (path : Text) : Entry := ⟨path, Path.displayName path⟩

end ScriptDesk
