import ScriptDesk.Host.Basic
import ScriptDesk.Path

/-! A file system in memory.  A location is the list of names from a node up to the root, so the
root is the empty list; paths that are not absolute start at the working directory. -/

namespace ScriptDesk

abbrev Location := List Text

inductive Node
  | file (bytes : ByteArray)
  | program
  | directory

-- byte arrays have two instances, and the imports decide which is found
instance : DecidableEq Node
  | .file a, .file b =>
    match ByteArray.instDecidableEq a b with
    | isTrue h => isTrue (h ▸ rfl)
    | isFalse h => isFalse fun e => h (Node.file.inj e)
  | .program, .program => isTrue rfl
  | .directory, .directory => isTrue rfl
  | .file _, .program => isFalse nofun
  | .file _, .directory => isFalse nofun
  | .program, .file _ => isFalse nofun
  | .program, .directory => isFalse nofun
  | .directory, .file _ => isFalse nofun
  | .directory, .program => isFalse nofun

structure FileTree where
  workDir : Location
  nodes : List (Location × Node)

namespace FileTree

def node? (t : FileTree) : Location → Option Node
  | [] => some .directory
  | at_ => t.nodes.lookup at_

def isDirectory (t : FileTree) (at_ : Location) : Bool := t.node? at_ == some .directory

def put (t : FileTree) (at_ : Location) (n : Node) : FileTree :=
  { t with nodes := (at_, n) :: t.nodes.filter (·.1 != at_) }

def walk (t : FileTree) : Location → List Text → Except IoError Location
  | at_, [] => .ok at_
  | at_, part :: parts =>
    if !t.isDirectory at_ then .error .notADirectory
    else if Path.isIdle part then walk t at_ parts
    else if part = ['.', '.'] then walk t at_.tail parts
    else if (t.node? (part :: at_)).isSome then walk t (part :: at_) parts
    else .error .notFound

def origin (t : FileTree) (path : Text) : Location := if Path.isAbsolute path then [] else t.workDir

def parts (path : Text) : List Text :=
  Text.splitOn '/' (if Path.isAbsolute path then path.drop 1 else path)

def locate (t : FileTree) (path : Text) : Except IoError Location :=
  if path.isEmpty then .error .notFound else t.walk (t.origin path) (parts path)

def encode (text : Text) : ByteArray := (String.ofList text).toUTF8

def read (t : FileTree) (path : Text) : Except IoError Text := do
  match t.node? (← t.locate path) with
  | some (.file bytes) => Text.decode bytes
  | some .program => .error .invalidUtf8
  | some .directory => .error .isADirectory
  | none => .error .notFound

/-- A path up to its last component, and that component; it is left out if it names nothing new:
a dot, two dots, or nothing at all. -/
def lastStep (path : Text) : List Text × Option Text :=
  match (parts path).reverse with
  | [] => ([], none)
  | name :: outer =>
    if Path.isIdle name ∨ name = ['.', '.'] then ((name :: outer).reverse, none)
    else (outer.reverse, some name)

def withoutSlashes (path : Text) : Text := (path.reverse.dropWhile (· == '/')).reverse

/-- A path that ends in a slash names a directory, so no text can be written there. -/
def write (t : FileTree) (path text : Text) : Except IoError FileTree := do
  if path.isEmpty then throw .notFound
  let (outer, name) := lastStep (withoutSlashes path)
  let at_ ← t.walk (t.origin path) outer
  if !t.isDirectory at_ then throw .notADirectory
  match name with
  | none => throw .isADirectory
  | some name =>
    if path.getLast? = some '/' ∨ t.isDirectory (name :: at_) then throw .isADirectory
    return t.put (name :: at_) (.file (encode text))

def makeDir (t : FileTree) (path : Text) : Except IoError FileTree := do
  if path.isEmpty then throw .notFound
  let (outer, name) := lastStep (withoutSlashes path)
  let at_ ← t.walk (t.origin path) outer
  if !t.isDirectory at_ then throw .notADirectory
  match name with
  | none => throw .alreadyExists
  | some name =>
    if (t.node? (name :: at_)).isSome then throw .alreadyExists
    return t.put (name :: at_) .directory

def isDir (t : FileTree) (path : Text) : Bool :=
  match t.locate path with
  | .ok at_ => t.isDirectory at_
  | .error _ => false

/-- Whether a program starts in a directory.  Bare names are looked up nowhere; other names that
are not absolute start at that directory. -/
def starts (t : FileTree) (dir name : Text) : Bool :=
  match t.locate dir with
  | .error _ => false
  | .ok at_ =>
    let from_ : Location := if Path.isAbsolute name then [] else at_
    t.isDirectory at_ && name.contains '/' &&
      match t.walk from_ (parts name) with
      | .ok place => t.node? place == some .program
      | .error _ => false

def files (t : FileTree) : List (Text × ByteArray) :=
  t.nodes.filterMap fun (at_, n) =>
    match n with
    | .file bytes =>
      if t.workDir.isSuffixOf at_ then
        some (Text.joinWith '/' (at_.take (at_.length - t.workDir.length)).reverse, bytes)
      else none
    | _ => none

end FileTree

instance : Host (StateM FileTree) where
  read path := fun t => (t.read path, t)
  write path text := fun t =>
    match t.write path text with
    | .ok t' => (.ok (), t')
    | .error e => (.error e, t)
  makeDir path := fun t =>
    match t.makeDir path with
    | .ok t' => (.ok (), t')
    | .error e => (.error e, t)
  isDirectory path := fun t => (t.isDir path, t)
  starts dir program := fun t => (t.starts dir program, t)

end ScriptDesk
