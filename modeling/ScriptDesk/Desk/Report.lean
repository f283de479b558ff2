import ScriptDesk.Desk.Basic
import ScriptDesk.Highlight.Shell
import ScriptDesk.Message.Basic
import ScriptDesk.Render
import ScriptDesk.Text.Edit

namespace ScriptDesk

inductive Reply
  | nothing
  | text (t : Text)
  | quit
  deriving DecidableEq, Repr

inductive Report
  | silent
  | quit
  | listing
  | title
  | removed (path : Text)
  | saved
  | restored
  | replaced (count : Nat)
  | formatted
  | themed (t : Theme)
  | checked (manual : Bool)
  | resolved (r : Resolution)
  deriving DecidableEq, Repr

inductive Plan
  | act (a : Act) (r : Report)
  | say (r : Except Failure Reply)
  | startTerminal (dir : Text)

def SkipReason.name : SkipReason → Text
  | .noSession => "NoSession".toList
  | .conflictPending => "ConflictPending".toList
  | .saveInFlight => "SaveInFlight".toList
  | .checkInFlight => "CheckInFlight".toList
  | .shutDown => "ShutDown".toList

namespace Desk

def palette (d : Desk) : Palette := .ofTheme d.workspace.settings.theme

def notice (d : Desk) (c : Conflict) : Text :=
  Render.conflictNotice c (((d.workspace.session? c.path).map (·.working)).getD []) d.palette

def verdictReply (d : Desk) (manual : Bool) : Verdict → Reply
  | .adopted path => .text (path ++ " changed on disk; reloaded".toList)
  | .conflict c => .text (d.notice c)
  | .readFailed => if manual then .text "Could not read the file; will retry".toList else .nothing
  | .unchanged => if manual then .text "No external changes".toList else .nothing
  | .skipped reason =>
    if manual then .text ("Check skipped: ".toList ++ reason.name) else .nothing
  | .discarded => .nothing

def resolvedReply (r : Resolution) : Option Session → Reply
  | none => .text "The file changed again since; conflict dismissed".toList
  | some s =>
    match r with
    | .keepMine => .text ("Kept your edits to ".toList ++ Render.title s)
    | .reloadTheirs => .text ("Reloaded ".toList ++ s.displayName ++ " from disk".toList)

def outcomeReply (d : Desk) : Report → Outcome → Reply
  | .quit, _ => .quit
  | .listing, .session s => .text (Render.listing s d.palette)
  | .title, .session s => .text (Render.title s)
  | .removed path, _ => .text ("Removed ".toList ++ path)
  | .saved, _ => .text ("Saved ".toList ++ d.workspace.current?.getD [])
  | .restored, .session s => .text ("Restored ".toList ++ Render.title s)
  | .replaced count, _ =>
    .text ("Replaced ".toList ++ Text.ofNat count ++ " occurrence(s)".toList)
  | .formatted, .formatted changed =>
    .text (if changed then "Formatted".toList else "Already formatted".toList)
  | .themed t, _ => .text ("Theme set to ".toList ++ t.name)
  | .checked manual, .verdict v => d.verdictReply manual v
  | .resolved r, .session s => resolvedReply r (some s)
  | .resolved r, _ => resolvedReply r none
  | _, _ => .nothing

/-- A file that cannot be restored is no failure. -/
def reply (d : Desk) (report : Report) : Result → Except Failure Reply
  | .ok outcome => .ok (d.outcomeReply report outcome)
  | .error e =>
    if report = .restored then
      .ok (.text ("Could not restore last session: ".toList ++ e.message))
    else .error e

def planEdit (d : Desk) (f : Text → Except Failure Text) : Plan :=
  match d.workspace.currentSession? with
  | none => .say (.error .noActiveSession)
  | some s =>
    match f s.working with
    | .error e => .say (.error e)
    | .ok text => .act (.edit text) .title

def orNoLine (n : Nat) : Option Text → Except Failure Text
  | some text => .ok text
  | none => .error (.command (.noLine n))

def planView (d : Desk) (f : Session → Text) : Plan :=
  match d.workspace.currentSession? with
  | none => .say (.error .noActiveSession)
  | some s => .say (.ok (.text (f s)))

def plan (d : Desk) : Message → Plan
  | .openFile path => .act (.openFile path) .listing
  | .select path => .act (.select path) .listing
  | .remove path => .act (.remove path) (.removed path)
  | .listRecent =>
    .say (.ok (.text (Render.recentList d.workspace.registry.entries d.workspace.current?)))
  | .save => .act .save .saved
  | .quit => .act .shutDown .quit
  | .append line => d.planEdit fun t => .ok (Text.appendLine t line)
  | .setLine n line => d.planEdit fun t => orNoLine n (Text.replaceLine t n line)
  | .deleteLine n => d.planEdit fun t => orNoLine n (Text.deleteLine t n)
  | .replace search new =>
    match d.workspace.currentSession? with
    | none => .say (.error .noActiveSession)
    | some s =>
      let (text, count) := Text.replaceAll s.working search new
      if count = 0 then .say (.ok (d.outcomeReply (.replaced 0) .nothing))
      else .act (.edit text) (.replaced count)
  | .format => .act .format .formatted
  | .print => d.planView fun s => Render.listing s d.palette
  | .highlight => d.planView fun s =>
      Render.highlighted s (Highlight.Shell.grammar.classifyText s.working) d.palette
  | .status =>
    .say (.ok (.text (Render.status d.workspace.currentSession? d.watch.conflict)))
  | .setTheme name =>
    match Theme.ofName? name with
    | some t => .act (.setTheme t) (.themed t)
    | none => .say (.error (.unknownTheme name))
  | .shell =>
    match d.workspace.current? with
    | none => .say (.error .noActiveSession)
    | some path => .startTerminal (Path.directory path)
  | .tick => .act .check (.checked false)
  | .check => .act .check (.checked true)
  | .focusGained => .act (.focus true) (.checked false)
  | .focusLost => .act (.focus false) .silent
  | .keepMine => .act (.resolve .keepMine) (.resolved .keepMine)
  | .reloadTheirs => .act (.resolve .reloadTheirs) (.resolved .reloadTheirs)
  | .help => .say (.ok (.text Message.helpText))

def planRestore : Plan := .act .restore .restored

def planShutDown : Plan := .act .shutDown .silent

end Desk
end ScriptDesk
