import ScriptDesk.Text.Basic

namespace ScriptDesk

inductive IoError
  | notFound
  | alreadyExists
  | notADirectory
  | isADirectory
  | invalidUtf8
  | missing (path : Text)
  | readRefused
  | writeRefused
  | other (message : Text)
  deriving DecidableEq, Repr

def IoError.message : IoError → Text
  | .notFound => "No such file or directory (os error 2)".toList
  | .alreadyExists => "File exists (os error 17)".toList
  | .notADirectory => "Not a directory (os error 20)".toList
  | .isADirectory => "Is a directory (os error 21)".toList
  | .invalidUtf8 => "stream did not contain valid UTF-8".toList
  | .missing path => path ++ " not found".toList
  | .readRefused => "read refused".toList
  | .writeRefused => "write refused".toList
  | .other m => m

/-- Texts in files, directories, and programs to start.  Neither a write nor `makeDir` makes the
directories that lead to its path. -/
class Host (m : Type → Type) where
  read : Text → m (Except IoError Text)
  write : (path text : Text) → m (Except IoError Unit)
  makeDir : Text → m (Except IoError Unit)
  isDirectory : Text → m Bool
  starts : (dir program : Text) → m Bool

def Text.decode (bytes : ByteArray) : Except IoError Text :=
  match String.fromUTF8? bytes with
  | some s => .ok s.toList
  | none => .error .invalidUtf8

end ScriptDesk
