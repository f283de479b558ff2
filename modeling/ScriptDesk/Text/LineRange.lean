import ScriptDesk.Text.Replace

namespace ScriptDesk.Text

/-- The first and the last byte position of a line, without its newline; within, none if there is no
such line.  None if a position lies inside a character or past the end. -/
def lineRange (t : Text) (n : Nat) : Option (Option (Nat × Nat)) :=
  match lineStart n t with
  | none => some none
  | some start =>
    (splitAtByte start t).map fun (_, rest) =>
      match occurrence ['\n'] rest with
      | some n => some (start, start + n)
      | none => some (start, byteSize t)

def editLine (t : Text) (n : Nat) (edit : Nat → Nat → Option Text) : Option (Option Text) :=
  match lineRange t n with
  | none => none
  | some none => some none
  | some (some (start, stop)) => (edit start stop).map some

def replaceLineBytes (t : Text) (n : Nat) (line : Text) : Option (Option Text) :=
  editLine t n fun start stop => overwrite t start stop line

def deleteLineBytes (t : Text) (n : Nat) : Option (Option Text) :=
  editLine t n fun start stop =>
    if stop < byteSize t then overwrite t start (stop + 1) []
    else if 0 < start then (splitAtByte (start - 1) t).map (·.1)
    else some []

end ScriptDesk.Text
