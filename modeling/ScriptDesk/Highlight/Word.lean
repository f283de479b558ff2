import ScriptDesk.Highlight.Scope
import ScriptDesk.Text.Blank
import ScriptDesk.Text.Letter

namespace ScriptDesk.Highlight.Word

def isGap (c : Char) : Bool := Text.isBlank c

def isMeta (c : Char) : Bool :=
  isGap c || c == ';' || c == '&' || c == '|' || c == '(' || c == ')' || c == '<' || c == '>'

def isActive (c : Char) : Bool := c == '"' || c == '\'' || c == '$' || c == '\\'

def isNameStart (c : Char) : Bool := Text.isLetter c || c == '_'

def isNameChar (c : Char) : Bool := Text.isWordChar c

def nameOf (t : Text) : Text :=
  match t with
  | [] => []
  | c :: _ => if isNameStart c then t.takeWhile isNameChar else []

/-- The length of the parameter's name after a dollar sign.  A parameter of one digit or sign is
none if a name goes on right behind it. -/
def parameterLength : Text → Nat
  | [] => 0
  | c :: t =>
    if isNameStart c then (nameOf (c :: t)).length
    else if (c.isDigit || "@?#*!$-".toList.contains c) && !(t.head?.any isNameChar) then 1
    else 0

def isEscapable (c : Char) : Bool := c == '$' || c == '"' || c == '\\' || c == '\x60' || c == '\n'

def builtins : List Text :=
  ["echo".toList, "printf".toList, "exit".toList, "cd".toList, "read".toList]

inductive Keyword
  | opening
  | closing
  | loop
  | function
  deriving DecidableEq, Repr

def keywords : List (Text × Keyword) := [
  ("if".toList, .opening), ("elif".toList, .opening), ("while".toList, .opening),
  ("until".toList, .opening), ("then".toList, .opening), ("else".toList, .opening),
  ("do".toList, .opening), ("fi".toList, .closing), ("done".toList, .closing),
  ("for".toList, .loop), ("function".toList, .function)]

/-- A keyword ends where its line goes on; only `then` may also end the text. -/
def endsKeyword (word after : Text) : Bool :=
  match after with
  | [] => word == "then".toList
  | c :: _ => isMeta c

def callsNothing (t : Text) : Bool :=
  match t.dropWhile isGap with
  | '(' :: t => (t.dropWhile isGap).head? == some ')'
  | _ => false

inductive Head
  | keyword (k : Keyword) (length : Nat)
  | assigned (length : Nat)
  | function (length : Nat)
  | builtin (length : Nat)
  | command (length : Nat)
  deriving DecidableEq, Repr

def headOf (t : Text) : Head :=
  let word := t.takeWhile fun c => !isMeta c && !isActive c
  let name := nameOf t
  let after := t.drop name.length
  match keywords.lookup name with
  | some k => if endsKeyword name after then .keyword k name.length else .command word.length
  | none =>
    if name.isEmpty then .command word.length
    else if after.head? = some '=' then .assigned name.length
    else if callsNothing after then .function name.length
    else if builtins.contains word then .builtin word.length
    else .command word.length

end ScriptDesk.Highlight.Word
