import ScriptDesk.Host.Basic
import ScriptDesk.Path

namespace ScriptDesk.Host

variable {m : Type → Type} [Monad m] [Host m]

def ensureDir (path : Text) : m (Except IoError Unit) := do
  match ← makeDir path with
  | .ok () => return .ok ()
  | .error e => return (if ← isDirectory path then .ok () else .error e)

/-- Make a directory and, where one above it is missing, that one first; `depth` bounds how many
are above it. -/
def makeDirsWithin : Nat → Text → m (Except IoError Unit)
  | 0, path => ensureDir path
  | depth + 1, path => do
    if path.isEmpty then return .ok ()
    match ← ensureDir path, Path.parent path with
    | .error .notFound, some outer =>
      match ← makeDirsWithin depth outer with
      | .ok () => ensureDir path
      | failed => return failed
    | result, _ => return result

def makeDirs (path : Text) : m (Except IoError Unit) := makeDirsWithin (path.length + 1) path

end ScriptDesk.Host
