import ScriptDesk.CommandLine
import ScriptDesk.Desk.Perform
import ScriptDesk.Message.Reader

namespace ScriptDesk

structure Environment where
  home : Option Text
  config : Option Text
  account : Option Text
  terminal : Option Text
  deriving DecidableEq, Repr

structure Printed where
  out : Text := []
  err : Text := []
  deriving DecidableEq, Repr

def Printed.append (p q : Printed) : Printed := ⟨p.out ++ q.out, p.err ++ q.err⟩

instance : Append Printed := ⟨Printed.append⟩

def Printed.line (t : Text) : Printed := { out := t ++ ['\n'] }

def Printed.complaint (t : Text) : Printed := { err := t ++ ['\n'] }

def Environment.location (env : Environment) (settings : Option Text) : Text :=
  settings.getD (Settings.defaultLocation env.home env.config env.account)

variable {m : Type → Type} [Monad m] [Host m]

structure Shell where
  desk : Desk
  location : Text
  terminal : Option Text

namespace Shell

def prompt : Printed := { out := "> ".toList }

def complain : Failure → Printed
  | .busy path => .complaint (Failure.busy path).message
  | .command cause => .complaint cause.message
  | e => .complaint ("error: ".toList ++ e.message)

def answer : Except Failure Reply → Printed
  | .ok (.text t) => .line t
  | .ok _ => {}
  | .error e => complain e

def perform (s : Shell) (p : Plan) : m (Except Failure Reply × Shell) := do
  let (r, desk) ← s.desk.perform (some s.location) s.terminal p
  return (r, { s with desk })

def start (env : Environment) (location : Text) (file : Option Text) : m (Printed × Shell) := do
  let settings ← Settings.load location
  let s : Shell := ⟨.ofSettings settings, location, env.terminal⟩
  let p := match file with
    | some path => s.desk.plan (.openFile path)
    | none => Desk.planRestore
  let (r, s) ← s.perform p
  return (answer r ++ prompt, s)

def close (s : Shell) : m Printed := do
  let _ ← s.perform (s.desk.plan .quit)
  return .line []

def feed (s : Shell) (typed : Text) : m (Printed × Option Shell) := do
  let line := Text.bare typed
  if (Text.trim line).isEmpty then return (prompt, some s)
  match Message.read line with
  | .error e => return (complain (.command e) ++ prompt, some s)
  | .ok .quit => return (← s.close, none)
  | .ok message =>
    let (r, s) ← s.perform (s.desk.plan message)
    return (answer r ++ prompt, some s)

def tick (s : Shell) : m (Printed × Shell) := do
  let (r, s) ← s.perform (s.desk.plan .tick)
  let said := answer r
  return (if said = {} then {} else said ++ prompt, s)

end Shell

namespace Program

def name : Text := "bashellit".toList

def versionLine : Text := name ++ " 0.3.0".toList

def helpText : Text :=
  "Edit, format and highlight Bash scripts; notices when they change on disk

Usage: bashellit [OPTIONS] [FILE]
       bashellit <COMMAND>

Commands:
  format     Print the formatted script, or rewrite it in place with --write
  highlight  Print the style class of every span
  recent     List recent files, or forget one
  help       Print this message or the help of the given subcommand(s)

Arguments:
  [FILE]  Script to open on start (defaults to the last active file)

Options:
      --settings <SETTINGS>  Settings file to use instead of the platform config location
  -v, --verbose              Log at debug level unless RUST_LOG says otherwise
  -h, --help                 Print help
  -V, --version              Print version".toList

def usageText : Text := "error: unexpected arguments; for more information, try '--help'.".toList

inductive Status
  | finished (exit : Nat)
  | running (s : Shell)

def fail (e : IoError) : Printed × Status :=
  (.complaint (name ++ ": ".toList ++ (Failure.io e).message), .finished 1)

def spanJson (s : Span) : Json Text :=
  .object [("text".toList, .string s.text), ("class".toList, .string s.style.name)]

def spansLine (spans : List Span) : Text := Json.compact (.array (spans.map spanJson)) ++ ['\n']

def format (write : Bool) (file : Text) : m (Printed × Status) := do
  match ← Host.read file with
  | .error e => return fail e
  | .ok text =>
    let formatted := Layout.format text
    if !write then return ({ out := formatted }, .finished 0)
    if formatted = text then return ({}, .finished 0)
    match ← Host.write file formatted with
    | .error e => return fail e
    | .ok () => return ({}, .finished 0)

def highlight (file : Text) : m (Printed × Status) := do
  match ← Host.read file with
  | .error e => return fail e
  | .ok text =>
    let lines := Highlight.Shell.grammar.classifyText text
    return ({ out := lines.flatMap spansLine }, .finished 0)

def recent (location : Text) (remove : Option Text) : m (Printed × Status) := do
  let store ← Store.openAt location
  let (written, store) ← match remove with
    | some path => store.removeRecent path
    | none => pure (.ok (), store)
  match written with
  | .error e => return fail e
  | .ok () =>
    return (.line (Render.recentList store.settings.recentFiles store.settings.activeFile),
      .finished 0)

def run (env : Environment) : Invocation → m (Printed × Status)
  | .version => return (.line versionLine, .finished 0)
  | .help => return (.line helpText, .finished 0)
  | .usage => return (.complaint usageText, .finished 2)
  | .format write file => format write file
  | .highlight file => highlight file
  | .recent settings remove =>
    recent (env.location settings) remove
  | .shell settings file => do
    let (printed, s) ← Shell.start env (env.location settings) file
    return (printed, .running s)

end Program
end ScriptDesk
