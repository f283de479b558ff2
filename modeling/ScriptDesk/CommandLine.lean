import ScriptDesk.Text.Basic

/-! The arguments of the program.  Options may be given once.  A command is known by its name only
if nothing stands before it; anything else is the file to open. -/

namespace ScriptDesk

inductive Subcommand
  | format
  | highlight
  | recent
  deriving DecidableEq, Repr

def Subcommand.ofName? (name : Text) : Option Subcommand :=
  if name = "format".toList then some .format
  else if name = "highlight".toList then some .highlight
  else if name = "recent".toList then some .recent
  else none

inductive Invocation
  | shell (settings file : Option Text)
  | format (write : Bool) (file : Text)
  | highlight (file : Text)
  | recent (settings remove : Option Text)
  | version
  | help
  | usage
  deriving DecidableEq, Repr

namespace CommandLine

inductive Valued
  | settings
  | remove
  deriving DecidableEq, Repr

inductive Flag
  | verbose
  | write
  | help
  | version
  deriving DecidableEq, Repr

structure Seen where
  command : Option Subcommand := none
  settings : Option Text := none
  remove : Option Text := none
  verbose : Bool := false
  write : Bool := false
  file : Option Text := none
  any : Bool := false
  waiting : Option Valued := none
  deriving DecidableEq, Repr

inductive Step
  | more (s : Seen)
  | stop (i : Invocation)

def valued? (command : Option Subcommand) (name : Text) : Option Valued :=
  if name = "settings".toList then some .settings
  else if name = "remove".toList ∧ command = some .recent then some .remove
  else none

def flag? (command : Option Subcommand) (name : Text) : Option Flag :=
  if name = "verbose".toList ∨ name = "v".toList then some .verbose
  else if name = "help".toList ∨ name = "h".toList then some .help
  else if (name = "version".toList ∨ name = "V".toList) ∧ command = none then some .version
  else if name = "write".toList ∧ command = some .format then some .write
  else none

def Seen.setFlag (s : Seen) : Flag → Step
  | .verbose => if s.verbose then .stop .usage else .more { s with verbose := true, any := true }
  | .write => if s.write then .stop .usage else .more { s with write := true, any := true }
  | .help => .stop .help
  | .version => .stop .version

/-- The settings are in a file, whose path is not empty. -/
def Seen.setValue (s : Seen) (value : Text) : Valued → Step
  | .settings =>
    if s.settings.isSome || value.isEmpty then .stop .usage
    else .more { s with settings := some value, any := true, waiting := none }
  | .remove =>
    if s.remove.isSome then .stop .usage
    else .more { s with remove := some value, any := true, waiting := none }

/-- Any text may be a file to open; a file to format or highlight has a path. -/
def Seen.setFile (s : Seen) (path : Text) : Step :=
  if s.file.isSome || s.command = some .recent || (s.command.isSome && path.isEmpty) then
    .stop .usage
  else .more { s with file := some path, any := true }

def Seen.long (s : Seen) (option : Text) : Step :=
  let name := option.takeWhile (· != '=')
  match valued? s.command name, option.dropWhile (· != '=') with
  | some v, [] => .more { s with any := true, waiting := some v }
  | some v, _ :: value => s.setValue value v
  | none, [] =>
    if name.length < 2 then .stop .usage
    else match flag? s.command name with
      | some f => s.setFlag f
      | none => .stop .usage
  | none, _ => .stop .usage

def Seen.short (s : Seen) : Text → Step
  | [] => .more s
  | c :: cs =>
    match flag? s.command [c] with
    | none => .stop .usage
    | some f =>
      match s.setFlag f with
      | .more s => s.short cs
      | stop => stop

def Seen.arg (s : Seen) (a : Text) : Step :=
  match s.waiting, a with
  | some _, '-' :: _ :: _ => .stop .usage
  | some v, a => s.setValue a v
  | none, '-' :: '-' :: option => s.long option
  | none, '-' :: c :: cs => s.short (c :: cs)
  | none, a => s.setFile a

def Seen.finish (s : Seen) : Invocation :=
  if s.waiting.isSome then .usage
  else match s.command, s.file with
    | none, file => .shell s.settings file
    | some .recent, _ => .recent s.settings s.remove
    | some .format, some file => .format s.write file
    | some .highlight, some file => .highlight file
    | some _, none => .usage

def readFiles : Seen → List Text → Invocation
  | s, [] => s.finish
  | s, a :: as =>
    match s.setFile a with
    | .more s => readFiles s as
    | .stop i => i

def readHelp : List Text → Invocation
  | [] => .help
  | [name] =>
    if (Subcommand.ofName? name).isSome || name == "help".toList then .help else .usage
  | _ => .usage

def readArgs : Seen → List Text → Invocation
  | s, [] => s.finish
  | s, a :: as =>
    let fresh := s.command.isNone && !s.any
    match if fresh then Subcommand.ofName? a else none with
    | some command => readArgs { s with command := some command } as
    | none =>
      if fresh && a == "help".toList then readHelp as
      else if a = "--".toList then
        if s.waiting.isSome then .usage else readFiles s as
      else match s.arg a with
        | .more s => readArgs s as
        | .stop i => i

def read (args : List Text) : Invocation := readArgs {} args

end CommandLine
end ScriptDesk
