import ScriptDesk.Text.Blank

/-! Indentation of shell scripts.  Each line is looked at alone, trimmed: its first word, its last
word and a closing word at its end say whether it steps back and whether the lines after it step
in. -/

namespace ScriptDesk.Layout

def indentWidth : Nat := 4

def closers : List Text :=
  ["done".toList, "fi".toList, "esac".toList, "\x7d".toList, "elif".toList, "else".toList]

def trailingOpeners : List Text :=
  ["then".toList, "do".toList, "\x7b".toList, "else".toList, "elif".toList]

def leadingOpeners : List Text :=
  ["if".toList, "for".toList, "while".toList, "case".toList, "function".toList]

def blockEnds : List Text := ["fi".toList, "done".toList, "esac".toList]

def dropOne : Char → List Char → List Char
  | c, d :: t => if c = d then t else d :: t
  | _, [] => []

/-- The line ends in a semicolon and a block end, blanks between them and after them, and at most
one more semicolon.  It is read from its end. -/
def closesItself (line : Text) : Bool :=
  let back := (dropOne ';' line.reverse).dropWhile Text.isAsciiBlank
  blockEnds.any fun w =>
    w.reverse.isPrefixOf back &&
      ((back.drop w.length).dropWhile Text.isAsciiBlank).head? == some ';'

structure LineShape where
  dedentBefore : Bool
  indentAfter : Bool
  deriving DecidableEq, Repr

def firstWord (line : Text) : Text := Text.trimSemicolons ((Text.words line).headD [])

def lastWord (line : Text) : Text := Text.trimSemicolons ((Text.words line).getLastD [])

def lineShape (line : Text) : LineShape where
  dedentBefore := closers.contains (firstWord line) || line.head? == some '}'
  indentAfter :=
    trailingOpeners.contains (lastWord line) || line.getLast? == some '{' ||
      (leadingOpeners.contains (firstWord line) && !closesItself line)

def indentation (depth : Nat) : Text := Text.spaces (depth * indentWidth)

def indentRows : Nat → List Text → Text
  | _, [] => []
  | depth, row :: rows =>
    let line := Text.trim row
    if line.isEmpty then '\n' :: indentRows depth rows
    else
      let shape := lineShape line
      let depth := if shape.dedentBefore then depth - 1 else depth
      let inner := if shape.indentAfter then depth + 1 else depth
      indentation depth ++ line ++ '\n' :: indentRows inner rows

def format (script : Text) : Text :=
  let body := indentRows 0 (Text.rows script)
  if script.endsLine then body else body.dropLast

end ScriptDesk.Layout
