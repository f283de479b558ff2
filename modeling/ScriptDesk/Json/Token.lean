import ScriptDesk.Text.Basic

/-! Tokens of JSON.  The scanner is fed one character at a time.  A string whose escapes leave half
of a surrogate pair alone is no Unicode text; it is still a token, but a token without content. -/

namespace ScriptDesk.Json

inductive Token
  | openArray
  | closeArray
  | openObject
  | closeObject
  | comma
  | colon
  | null
  | bool (b : Bool)
  | number (literal : Text)
  | string (content : Option Text)
  deriving DecidableEq, Repr

def isSpace (c : Char) : Bool := c == ' ' || c == '\t' || c == '\n' || c == '\r'

structure Partial where
  chars : List Char
  half : Option Nat
  sound : Bool
  deriving DecidableEq, Repr

def Partial.empty : Partial := ⟨[], none, true⟩

def Partial.push (p : Partial) (c : Char) : Partial :=
  ⟨c :: p.chars, none, p.sound && p.half.isNone⟩

def Partial.pushUnit (p : Partial) (unit : Nat) : Partial :=
  if 0xD800 ≤ unit ∧ unit < 0xDC00 then ⟨p.chars, some unit, p.sound && p.half.isNone⟩
  else if 0xDC00 ≤ unit ∧ unit < 0xE000 then
    match p.half with
    | some high =>
      ⟨Char.ofNat (0x10000 + (high - 0xD800) * 0x400 + (unit - 0xDC00)) :: p.chars, none, p.sound⟩
    | none => ⟨p.chars, none, false⟩
  else p.push (Char.ofNat unit)

def Partial.content (p : Partial) : Option Text :=
  if p.sound && p.half.isNone then some p.chars.reverse else none

inductive State
  | between
  | text (p : Partial)
  | escape (p : Partial)
  | hex (p : Partial) (left value : Nat)
  | number (literal : Text)
  | word (letters : Text)
  deriving DecidableEq, Repr

def hexValue (c : Char) : Option Nat :=
  let n := c.toNat
  if 0x30 ≤ n ∧ n ≤ 0x39 then some (n - 0x30)
  else if 0x41 ≤ n ∧ n ≤ 0x46 then some (n - 0x37)
  else if 0x61 ≤ n ∧ n ≤ 0x66 then some (n - 0x57)
  else none

def isNumberChar (c : Char) : Bool :=
  c.isDigit || c == '-' || c == '+' || c == '.' || c == 'e' || c == 'E'

def startsDigit (t : Text) : Bool := (t.head?.map Char.isDigit).getD false

def isExponent : Text → Bool
  | [] => true
  | c :: t =>
    let digits := match t with
      | '+' :: r | '-' :: r => r
      | r => r
    (c == 'e' || c == 'E') && startsDigit digits && digits.all Char.isDigit

def isFraction : Text → Bool
  | '.' :: t => startsDigit t && isExponent (t.dropWhile Char.isDigit)
  | t => isExponent t

def isMagnitude : Text → Bool
  | '0' :: t => isFraction t
  | c :: t => c.isDigit && isFraction (t.dropWhile Char.isDigit)
  | [] => false

def isNumber : Text → Bool
  | '-' :: t => isMagnitude t
  | t => isMagnitude t

def wordToken (letters : Text) : Option Token :=
  if letters = "null".toList then some .null
  else if letters = "true".toList then some (.bool true)
  else if letters = "false".toList then some (.bool false)
  else none

def State.finish : State → Option (List Token)
  | .between => some []
  | .number literal => if isNumber literal.reverse then some [.number literal.reverse] else none
  | .word letters => (wordToken letters.reverse).map ([·])
  | _ => none

def start (c : Char) : Option (List Token × State) :=
  match c with
  | '[' => some ([.openArray], .between)
  | ']' => some ([.closeArray], .between)
  | '{' => some ([.openObject], .between)
  | '}' => some ([.closeObject], .between)
  | ',' => some ([.comma], .between)
  | ':' => some ([.colon], .between)
  | '"' => some ([], .text .empty)
  | c =>
    if isSpace c then some ([], .between)
    else if isNumberChar c && c != 'e' && c != 'E' then some ([], .number [c])
    else if c.isLower then some ([], .word [c])
    else none

def unescape : Char → Option Char
  | '"' => some '"'
  | '\\' => some '\\'
  | '/' => some '/'
  | 'b' => some '\x08'
  | 'f' => some '\x0c'
  | 'n' => some '\n'
  | 'r' => some '\r'
  | 't' => some '\t'
  | _ => none

def State.feed (c : Char) : State → Option (List Token × State)
  | .between => start c
  | .text p =>
    if c = '"' then some ([.string p.content], .between)
    else if c = '\\' then some ([], .escape p)
    else if c.toNat < 0x20 then none
    else some ([], .text (p.push c))
  | .escape p =>
    if c = 'u' then some ([], .hex p 4 0)
    else (unescape c).map fun d => ([], .text (p.push d))
  | .hex p left value =>
    (hexValue c).map fun d =>
      let value := value * 16 + d
      ([], if left ≤ 1 then .text (p.pushUnit value) else .hex p (left - 1) value)
  | .number literal =>
    if isNumberChar c then some ([], .number (c :: literal))
    else do
      let held ← (State.number literal).finish
      let (tokens, next) ← start c
      return (held ++ tokens, next)
  | .word letters =>
    if c.isLower then some ([], .word (c :: letters))
    else do
      let held ← (State.word letters).finish
      let (tokens, next) ← start c
      return (held ++ tokens, next)

def scanFrom : State → Text → Option (List Token)
  | s, [] => s.finish
  | s, c :: t => do
    let (tokens, next) ← s.feed c
    return tokens ++ (← scanFrom next t)

def scan (t : Text) : Option (List Token) := scanFrom .between t

end ScriptDesk.Json
