import ScriptDesk.Diff.Unified

namespace ScriptDesk

/-- An external change that met unsaved edits: the session it was found for, by its id and
revision, and the text that was read from disk. -/
structure Conflict where
  path : Text
  session : Nat
  disk : Text
  revision : Nat
  deriving DecidableEq, Repr

def Conflict.diff (c : Conflict) (working : Text) : Text := Diff.unified working c.disk

inductive Resolution
  | keepMine
  | reloadTheirs
  deriving DecidableEq, Repr

end ScriptDesk
