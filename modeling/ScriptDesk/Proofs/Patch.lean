import ScriptDesk.Diff.Unified
import ScriptDesk.Proofs.Lines

/-! Patches as they are read.  A printed patch is read line by line: a header gives the places of a
hunk, and each row below it starts with its mark.  Hunks turn one list of lines into another if the
lines between them are equal and each stands where the rows say. -/

namespace ScriptDesk

namespace Diff

namespace Row

def isKept : Row → Bool
  | .kept _ => true
  | _ => false

def isDeleted : Row → Bool
  | .deleted _ => true
  | _ => false

def isInserted : Row → Bool
  | .inserted _ => true
  | _ => false

def line : Row → Text
  | .kept l | .deleted l | .inserted l => l

def oldLine? : Row → Option Text
  | .kept l | .deleted l => some l
  | .inserted _ => none

def newLine? : Row → Option Text
  | .kept l | .inserted l => some l
  | .deleted _ => none

end Row

end Diff

namespace Patch

open Diff (Row)

/-- Some lines from a place on; an empty range is the place before the line of that number. -/
structure Range where
  start : Nat
  len : Nat
  deriving DecidableEq, Repr

structure Hunk where
  old : Range
  new : Range
  rows : List Row
  deriving DecidableEq, Repr

def Hunk.oldLines (h : Hunk) : List Text := h.rows.filterMap Row.oldLine?

def Hunk.newLines (h : Hunk) : List Text := h.rows.filterMap Row.newLine?

/-- Hunks turn one list of lines into another: from lines `i` and `j` on, the lines above each hunk
are equal on both sides, and it has the lines of either side where those end. -/
inductive Turns (placed : Nat → Nat → Hunk → Prop) :
    Nat → Nat → List Hunk → List Text → List Text → Prop
  | rest (i j : Nat) (lines : List Text) : Turns placed i j [] lines lines
  | hunk {i j : Nat} {h : Hunk} {hs : List Hunk} {gap a b : List Text}
      (place : placed (i + gap.length) (j + gap.length) h)
      (below : Turns placed (i + gap.length + h.oldLines.length)
        (j + gap.length + h.newLines.length) hs a b) :
      Turns placed i j (h :: hs) (gap ++ h.oldLines ++ a) (gap ++ h.newLines ++ b)

def Hunk.Exact (i j : Nat) (h : Hunk) : Prop :=
  h.old = ⟨i, h.oldLines.length⟩ ∧ h.new = ⟨j, h.newLines.length⟩

/-- The rows up to the first kept one are there, and all of one kind. -/
def Lone (change : Row → Bool) (rows : List Row) : Prop :=
  rows.takeWhile (!·.isKept) ≠ [] ∧ ∀ r ∈ rows.takeWhile (!·.isKept), change r = true

/-- The place in the old list is right in every header.  The place in the new list is right unless
the hunk starts with deletions alone, the old length unless it ends with insertions alone, and the
new length unless it starts or ends with deletions alone. -/
structure Hunk.Placed (i j : Nat) (h : Hunk) : Prop where
  oldStart : h.old.start = i
  newStart : ¬ Lone Row.isDeleted h.rows → h.new.start = j
  oldLen : ¬ Lone Row.isInserted h.rows.reverse → h.old.len = h.oldLines.length
  newLen : ¬ Lone Row.isDeleted h.rows → ¬ Lone Row.isDeleted h.rows.reverse →
    h.new.len = h.newLines.length

theorem Turns.eq_of_nil {placed : Nat → Nat → Hunk → Prop} {i j : Nat} {a b : List Text}
    (h : Turns placed i j [] a b) : a = b := by
  cases h
  rfl

theorem Turns.placed_head {placed : Nat → Nat → Hunk → Prop} {i j : Nat} {h : Hunk}
    {hs : List Hunk} {a b : List Text} (turns : Turns placed i j (h :: hs) a b) :
    ∃ gap, placed (i + gap) (j + gap) h := by
  cases turns with
  | hunk place => exact ⟨_, place⟩

theorem Turns.here {placed : Nat → Nat → Hunk → Prop} {i j : Nat} {h : Hunk} {hs : List Hunk}
    {a b : List Text} (place : placed i j h)
    (below : Turns placed (i + h.oldLines.length) (j + h.newLines.length) hs a b) :
    Turns placed i j (h :: hs) (h.oldLines ++ a) (h.newLines ++ b) :=
  @Turns.hunk placed i j h hs [] a b place below

theorem Turns.skip {placed : Nat → Nat → Hunk → Prop} {i j : Nat} {hs : List Hunk}
    {a b : List Text} (gap : List Text)
    (h : Turns placed (i + gap.length) (j + gap.length) hs a b) :
    Turns placed i j hs (gap ++ a) (gap ++ b) := by
  generalize hi : i + gap.length = i' at h
  generalize hj : j + gap.length = j' at h
  cases h with
  | rest => exact .rest i j _
  | @hunk _ _ h hs gap' a b place below =>
    subst hi hj
    rw [← List.append_assoc, ← List.append_assoc, ← List.append_assoc, ← List.append_assoc]
    refine .hunk ?_ ?_
    · rwa [List.length_append, ← Nat.add_assoc, ← Nat.add_assoc]
    · rwa [List.length_append, ← Nat.add_assoc, ← Nat.add_assoc]

def natural? (t : Text) : Option Nat :=
  if t ≠ [] ∧ t.all Char.isDigit = true then some (Nat.ofDigitChars 10 t 0) else none

/-- `3` is the third line, `3,2` are two lines from it on, and `3,0` is the place behind it. -/
def range? (t : Text) : Option Range :=
  match Text.splitOn ',' t with
  | [start] => (natural? start).map fun n => ⟨n - 1, 1⟩
  | [start, len] =>
    match natural? start, natural? len with
    | some n, some 0 => some ⟨n, 0⟩
    | some n, some len => some ⟨n - 1, len⟩
    | _, _ => none
  | _ => none

def ranges? (line : Text) : Option (Range × Range) :=
  match Text.splitOn ' ' line with
  | [left, '-' :: old, '+' :: new, right] =>
    if left = "@@".toList ∧ right = "@@\n".toList then
      (range? old).bind fun old => (range? new).map fun new => (old, new)
    else none
  | _ => none

def note : Text := "\\ No newline at end of file\n".toList

def dropNotes : List Text → List Text
  | l :: m :: ls => if m = note then l.dropLast :: dropNotes ls else l :: dropNotes (m :: ls)
  | ls => ls

def readLines : List Text → Option (List Row × List Hunk)
  | [] => some ([], [])
  | l :: ls =>
    (readLines ls).bind fun (rows, hs) =>
      match l with
      | ' ' :: t => some (.kept t :: rows, hs)
      | '-' :: t => some (.deleted t :: rows, hs)
      | '+' :: t => some (.inserted t :: rows, hs)
      | l => (ranges? l).map fun (old, new) => ([], ⟨old, new, rows⟩ :: hs)

def read (t : Text) : Option (List Hunk) :=
  match Diff.lines t with
  | [] => some []
  | yours :: disk :: ls =>
    if yours = "--- yours\n".toList ∧ disk = "+++ on disk\n".toList then
      match readLines (dropNotes ls) with
      | some ([], hs) => some hs
      | _ => none
    else none
  | _ => none

end Patch

end ScriptDesk
