import ScriptDesk.Failure
import ScriptDesk.Message.Basic
import ScriptDesk.Text.Blank

namespace ScriptDesk

inductive Verb
  | openFile
  | select
  | remove
  | listRecent
  | save
  | quit
  | append
  | setLine
  | deleteLine
  | replace
  | format
  | print
  | highlight
  | status
  | shell
  | setTheme
  | check
  | focus
  | blur
  | keep
  | reload
  | help
  deriving DecidableEq, Repr

namespace Verb

def table : List (Text × Verb) := [
  (":open".toList, .openFile), (":o".toList, .openFile),
  (":select".toList, .select),
  (":remove".toList, .remove),
  (":recent".toList, .listRecent), (":ls".toList, .listRecent),
  (":save".toList, .save), (":w".toList, .save),
  (":quit".toList, .quit), (":q".toList, .quit),
  (":append".toList, .append), (":a".toList, .append),
  (":set".toList, .setLine),
  (":delete".toList, .deleteLine), (":d".toList, .deleteLine),
  (":replace".toList, .replace), (":s".toList, .replace),
  (":format".toList, .format), (":fmt".toList, .format),
  (":print".toList, .print), (":p".toList, .print),
  (":highlight".toList, .highlight), (":hl".toList, .highlight),
  (":status".toList, .status),
  (":shell".toList, .shell), (":sh".toList, .shell),
  (":theme".toList, .setTheme),
  (":check".toList, .check),
  (":focus".toList, .focus),
  (":blur".toList, .blur),
  (":keep".toList, .keep),
  (":reload".toList, .reload),
  (":help".toList, .help), (":h".toList, .help), ("?".toList, .help)]

def ofWord? (word : Text) : Option Verb := table.lookup word

end Verb

namespace Message

def required (what : String) (arg : Text) : Except CommandError Text :=
  if arg.isEmpty then .error (.missing what.toList) else .ok arg

/-- Digits, perhaps behind a plus sign, for a number below 2^64. -/
def number? (t : Text) : Option Nat :=
  let digits := match t with
    | '+' :: r => r
    | r => r
  if digits.isEmpty || !digits.all Char.isDigit then none
  else
    let n := Nat.ofDigitChars 10 digits 0
    if n < UInt64.size then some n else none

def lineNumber (arg : Text) : Except CommandError Nat :=
  match number? (Text.trim arg) with
  | some (n + 1) => .ok (n + 1)
  | _ => .error (.notALineNumber arg)

def ofVerb (rest : Text) : Verb → Except CommandError Message
  | .openFile => .openFile <$> required "path" (Text.trim rest)
  | .select => .select <$> required "path" (Text.trim rest)
  | .remove => .remove <$> required "path" (Text.trim rest)
  | .listRecent => .ok .listRecent
  | .save => .ok .save
  | .quit => .ok .quit
  | .append => .ok (.append rest)
  | .setLine =>
    let (n, line) := (Text.splitSpace (Text.trimStart rest)).getD (Text.trim rest, [])
    (.setLine · line) <$> lineNumber n
  | .deleteLine => .deleteLine <$> lineNumber (Text.trim rest)
  | .replace =>
    match Text.splitSpace (Text.trim rest) with
    | some (search, new) => .ok (.replace search (Text.trimStart new))
    | none => .error .replaceUsage
  | .format => .ok .format
  | .print => .ok .print
  | .highlight => .ok .highlight
  | .status => .ok .status
  | .shell => .ok .shell
  | .setTheme => .setTheme <$> required "theme name" (Text.trim rest)
  | .check => .ok .check
  | .focus => .ok .focusGained
  | .blur => .ok .focusLost
  | .keep => .ok .keepMine
  | .reload => .ok .reloadTheirs
  | .help => .ok .help

def typed (line : Text) : Text :=
  (line.reverse.dropWhile fun c => c == '\r' || c == '\n').reverse

def read (line : Text) : Except CommandError Message :=
  let line := typed line
  let (word, rest) := (Text.splitSpace line).getD (line, [])
  match Verb.ofWord? word with
  | some verb => ofVerb rest verb
  | none => if word.isEmpty then .error .empty else .error (.unknown word)

end Message
end ScriptDesk
