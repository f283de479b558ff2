import ScriptDesk.Diff.Shortest
import ScriptDesk.Diff.Compact
import ScriptDesk.Diff.Hunk

namespace ScriptDesk.Diff

def lines : Text → List Text
  | [] => []
  | '\r' :: '\n' :: t => ['\r', '\n'] :: lines t
  | c :: t =>
    if c = '\n' ∨ c = '\r' then [c] :: lines t
    else match lines t with
      | [] => [[c]]
      | l :: ls => (c :: l) :: ls

@[simp] theorem flatten_lines (t : Text) : (lines t).flatten = t := by
  fun_induction lines t with
  | case1 => rfl
  | case2 t ih => simp [ih]
  | case3 c t _ _ ih => simp [ih]
  | case4 c t _ _ h ih =>
    rw [h] at ih
    simp [← ih]
  | case5 c t _ _ l ls h ih =>
    rw [h] at ih
    simp [← ih]

def edits (a b : List Text) : List Edit := compact a b (shortest a b)

def context : Nat := 2

/-- A span counts its first line from 1 and leaves out a length of one; an empty span stands after
its start. -/
def Extent.print (s : Extent) : Text :=
  match s.stop - s.start with
  | 0 => Text.ofNat s.start ++ ",0".toList
  | 1 => Text.ofNat (s.start + 1)
  | n => Text.ofNat (s.start + 1) ++ ',' :: Text.ofNat n

def printLine (mark : Char) (line : Text) : Text :=
  mark :: line ++
    match line.getLast? with
    | some '\n' | some '\r' => []
    | _ => "\n\\ No newline at end of file\n".toList

def Row.print : Row → Text
  | .kept l => printLine ' ' l
  | .deleted l => printLine '-' l
  | .inserted l => printLine '+' l

def Hunk.print (a b : List Text) (h : Hunk) : Text :=
  "@@ -".toList ++ (Hunk.oldExtent h).print ++ " +".toList ++ (Hunk.newExtent h).print ++
    " @@\n".toList ++ (Hunk.rows a b h).flatMap Row.print

def header : Text := "--- yours\n+++ on disk\n".toList

def unified (working disk : Text) : Text :=
  let a := lines working
  let b := lines disk
  match hunks context (edits a b) with
  | [] => []
  | hs => header ++ hs.flatMap (Hunk.print a b)

end ScriptDesk.Diff
