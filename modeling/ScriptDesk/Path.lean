import ScriptDesk.Text.Basic

/-! Paths as texts: components between slashes, of which empty ones and dots count for nothing.
A leading dot counts when it stands alone or before a slash. -/

namespace ScriptDesk.Path

def lead : Text → Text
  | '/' :: _ => ['/']
  | ['.'] => ['.']
  | '.' :: '/' :: _ => ['.']
  | _ => []

def isAbsolute : Text → Bool
  | '/' :: _ => true
  | _ => false

def isIdle (component : Text) : Bool := component == [] || component == ['.']

def inward (path : Text) : List Text :=
  (Text.splitOn '/' (path.drop (lead path).length)).reverse.dropWhile isIdle

def fileName (path : Text) : Option Text :=
  match inward path with
  | [] => none
  | name :: _ => if name = ['.', '.'] then none else some name

def parent (path : Text) : Option Text :=
  match inward path with
  | [] => if lead path = ['.'] then some [] else none
  | _ :: outer => some (lead path ++ Text.joinWith '/' (outer.dropWhile isIdle).reverse)

def displayName (path : Text) : Text := (fileName path).getD "Unknown".toList

def directory (path : Text) : Text :=
  match parent path with
  | some (c :: dir) => c :: dir
  | _ => ['.']

def below (dir path : Text) : Text :=
  if dir.isEmpty || dir.getLast? == some '/' then dir ++ path else dir ++ '/' :: path

end ScriptDesk.Path
