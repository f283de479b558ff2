import ScriptDesk.Proofs.Layout
import ScriptDesk.Proofs.Shape
import Mathlib.Data.List.Forall2

/-! Blocks of a script.  Every line is judged alone, so whether the lines that step back make up for
those that make others step in is a matter of how blocks are written.  A head and its closing line
do, and the branches between them do; but a keyword that is left to a line of its own makes the
lines after it step in once more than anything steps back. -/

namespace ScriptDesk.Layout

open Text (pieces joined trim)

inductive Kind
  | conditional
  | loop

namespace Kind

def openers : Kind → List Text
  | conditional => ["if".toList]
  | loop => ["for".toList, "while".toList]

def keyword : Kind → Text
  | conditional => "then".toList
  | loop => "do".toList

def closer : Kind → Text
  | conditional => "fi".toList
  | loop => "done".toList

def branches : Kind → Bool
  | conditional => true
  | loop => false

end Kind

/-- What a block starts with.  The keyword ends the line, or is left to the next one. -/
inductive Head (kind : Kind)
  | whole (line : Text) (opens : firstWord line ∈ kind.openers)
      (ends : lastWord line = kind.keyword)
  | split (line : Text) (opens : firstWord line ∈ kind.openers)
      (left : lastWord line ≠ kind.keyword)

namespace Head

variable {kind : Kind}

def line : Head kind → Text
  | whole line _ _ => line
  | split line _ _ => line

def keyword : Head kind → List Text
  | whole _ _ _ => []
  | split _ _ _ => [kind.keyword]

def around (head : Head kind) (inside : List Text) : List Text :=
  head.line :: (head.keyword ++ inside) ++ [kind.closer]

/-- A head whose keyword is left to the next line counts, unless it closes its own block. -/
def late : Head kind → Nat
  | whole _ _ _ => 0
  | split line _ _ => if closesItself line then 0 else 1

end Head

/-- Plain lines and whole blocks, one after the other; inside a conditional also its branches, the
last of which is followed by no other. -/
inductive Script : Bool → Type
  | nil {branches : Bool} : Script branches
  | plain {branches : Bool} (line : Text) (level : lineShape line = ⟨false, false⟩)
      (rest : Script branches) : Script branches
  | block {branches : Bool} (kind : Kind) (head : Head kind) (body : Script kind.branches)
      (rest : Script branches) : Script branches
  | elseIf (line : Text) (opens : firstWord line = "elif".toList)
      (ends : lastWord line = "then".toList) (rest : Script true) : Script true
  | otherwise (rest : Script false) : Script true

namespace Script

def lines {branches : Bool} : Script branches → List Text
  | nil => []
  | plain line _ rest => line :: rest.lines
  | block _ head body rest => head.around body.lines ++ rest.lines
  | elseIf line _ _ rest => line :: rest.lines
  | otherwise rest => "else".toList :: rest.lines

def late {branches : Bool} : Script branches → Nat
  | nil => 0
  | plain _ _ rest => rest.late
  | block _ head body rest => head.late + body.late + rest.late
  | elseIf _ _ _ rest => rest.late
  | otherwise rest => rest.late

/-- The lines, each with the depth it is nested at: a body one deeper than its head, branches and
the closing line as deep as the head. -/
def outline {branches : Bool} (depth : Nat) : Script branches → List (Nat × Text)
  | nil => []
  | plain line _ rest => (depth, line) :: rest.outline depth
  | block kind head body rest =>
    (depth, head.line) :: (head.keyword.map (depth, ·) ++ body.outline (depth + 1)) ++
      (depth, kind.closer) :: rest.outline depth
  | elseIf line _ _ rest => (depth - 1, line) :: rest.outline depth
  | otherwise rest => (depth - 1, "else".toList) :: rest.outline depth

end Script

theorem opener_whole {kind : Kind} {opener : Text} (h : opener ∈ kind.openers) :
    Text.words opener = [opener] ∧ Text.trimSemicolons opener = opener := by
  revert opener
  cases kind <;> decide

theorem keyword_whole (kind : Kind) :
    Text.words kind.keyword = [kind.keyword] ∧
      Text.trimSemicolons kind.keyword = kind.keyword := by
  cases kind <;> decide

theorem shape_keyword (kind : Kind) : lineShape kind.keyword = ⟨false, true⟩ := by
  cases kind <;> decide

theorem shape_closer (kind : Kind) : lineShape kind.closer = ⟨true, false⟩ := by
  cases kind <;> decide

theorem closer_ne_nil (kind : Kind) : kind.closer ≠ [] := by
  cases kind <;> decide

theorem shape_elseIf {line : Text} (opens : firstWord line = "elif".toList)
    (ends : lastWord line = "then".toList) : lineShape line = ⟨true, true⟩ := by
  have closes : closers.contains (firstWord line) = true := by
    rw [opens]
    decide
  have steps : trailingOpeners.contains (lastWord line) = true := by
    rw [ends]
    decide
  simp only [lineShape, closes, steps, Bool.true_or]

theorem shape_otherwise : lineShape "else".toList = ⟨true, true⟩ := by decide

theorem ownDepth_of_level {line : Text} {inner : Bool} (shape : lineShape line = ⟨false, inner⟩)
    (depth : Nat) : ownDepth depth line = depth := by
  simp [ownDepth, shape]

theorem nextDepth_of_level {line : Text} {inner : Bool} (shape : lineShape line = ⟨false, inner⟩)
    (depth : Nat) : nextDepth depth line = depth + inner.toNat := by
  rw [nextDepth, ownDepth_of_level shape, shape]
  cases inner <;> rfl

theorem ownDepth_of_back {line : Text} {inner : Bool} (shape : lineShape line = ⟨true, inner⟩)
    (depth : Nat) : ownDepth depth line = depth - 1 := by
  simp [ownDepth, shape]

theorem nextDepth_closer (kind : Kind) (depth : Nat) : nextDepth depth kind.closer = depth - 1 := by
  rw [nextDepth, ownDepth_of_back (shape_closer kind), shape_closer]
  rfl

theorem nextDepth_branch {line : Text} (shape : lineShape line = ⟨true, true⟩) {depth : Nat}
    (inner : 0 < depth) : nextDepth depth line = depth := by
  rw [nextDepth, ownDepth_of_back shape, shape]
  exact Nat.sub_add_cancel inner

namespace Head

variable {kind : Kind}

theorem opens {opener : Text} (h : opener ∈ kind.openers) (rest : Text) :
    firstWord (opener ++ ' ' :: rest) ∈ kind.openers := by
  obtain ⟨one, ends⟩ := opener_whole h
  rwa [firstWord_append one ends]

theorem ends (opener condition : Text) :
    lastWord (opener ++ ' ' :: (condition ++ ';' :: ' ' :: kind.keyword)) = kind.keyword := by
  obtain ⟨one, ends⟩ := keyword_whole kind
  have spaced : opener ++ ' ' :: (condition ++ ';' :: ' ' :: kind.keyword) =
      (opener ++ ' ' :: (condition ++ [';'])) ++ ' ' :: kind.keyword := by simp
  rw [spaced, lastWord_append one ends]

def onOneLine (opener : Text) (h : opener ∈ kind.openers) (condition : Text) : Head kind :=
  .whole (opener ++ ' ' :: (condition ++ ';' :: ' ' :: kind.keyword)) (opens h _)
    (ends opener condition)

def onTwoLines (opener : Text) (h : opener ∈ kind.openers) (condition : Text)
    (left : lastWord (opener ++ ' ' :: condition) ≠ kind.keyword) : Head kind :=
  .split (opener ++ ' ' :: condition) (opens h _) left

theorem mem_leadingOpeners {word : Text} (h : word ∈ kind.openers) : word ∈ leadingOpeners := by
  revert word
  cases kind <;> decide

theorem line_ne_nil (head : Head kind) : head.line ≠ [] := by
  intro none
  have opens : firstWord head.line ∈ leadingOpeners := by
    cases head with
    | whole line opens ends => exact mem_leadingOpeners opens
    | split line opens left => exact mem_leadingOpeners opens
  rw [none] at opens
  revert opens
  decide

theorem shape_whole {line : Text} (opens : firstWord line ∈ kind.openers)
    (ends : lastWord line = kind.keyword) : lineShape line = ⟨false, true⟩ := by
  have steps : kind.keyword ∈ trailingOpeners := by cases kind <;> decide
  have inner : (lineShape line).indentAfter = true := by simp [lineShape, ends, steps]
  rw [lineShape_of_opener (mem_leadingOpeners opens)] at inner ⊢
  exact congrArg (LineShape.mk false) inner

theorem level (head : Head kind) : ∃ inner, lineShape head.line = ⟨false, inner⟩ := by
  cases head with
  | whole line opens ends => exact ⟨true, shape_whole opens ends⟩
  | split line opens left => exact ⟨_, lineShape_of_opener (mem_leadingOpeners opens)⟩

theorem depthAfter_lines (head : Head kind) (depth : Nat) :
    depthAfter depth (head.line :: head.keyword) = depth + head.late + 1 := by
  cases head with
  | whole line opens ends =>
    change depthAfter depth [line] = depth + 0 + 1
    rw [depthAfter_cons, nextDepth_of_level (shape_whole opens ends)]
    rfl
  | split line opens left =>
    change depthAfter depth [line, kind.keyword] = depth + (if closesItself line then 0 else 1) + 1
    rw [depthAfter_cons, nextDepth_of_level (lineShape_of_opener (mem_leadingOpeners opens)),
      depthAfter_cons, nextDepth_of_level (shape_keyword kind)]
    cases closesItself line <;> rfl

variable {inside : List Text} {late : Nat}

theorem depthAfter_around (head : Head kind)
    (h : ∀ depth, depthAfter (depth + 1) inside = depth + 1 + late) (depth : Nat) :
    depthAfter depth (head.around inside) = depth + (head.late + late) := by
  rw [around, ← List.cons_append, depthAfter_append, depthAfter_append, head.depthAfter_lines, h,
    depthAfter_cons, nextDepth_closer, depthAfter_nil]
  omega

theorem indentLines_around (head : Head kind)
    (h : ∀ depth, depthAfter (depth + 1) inside = depth + 1 + late) (depth : Nat) :
    indentLines depth (head.around inside) =
      placed depth head.line :: (indentLines (nextDepth depth head.line) head.keyword ++
        indentLines (depth + head.late + 1) inside) ++
      [placed (depth + (head.late + late)) kind.closer] := by
  have deep : depth + head.late + 1 + late - 1 = depth + (head.late + late) := by omega
  obtain ⟨inner, shape⟩ := head.level
  rw [around, ← List.cons_append, indentLines_append, indentLines_append, depthAfter_append,
    head.depthAfter_lines, h, indentLines_cons, ownDepth_of_level shape, indentLines_cons,
    ownDepth_of_back (shape_closer kind), deep]
  rfl

end Head

theorem Script.depthAfter_lines {branches : Bool} (script : Script branches) (depth : Nat)
    (inner : branches = true → 0 < depth) :
    depthAfter depth script.lines = depth + script.late := by
  induction script generalizing depth with
  | nil => rfl
  | plain line level rest ih =>
    rw [lines, depthAfter_cons, nextDepth_of_level level]
    exact ih depth inner
  | block kind head body rest ihBody ihRest =>
    have inside (depth : Nat) := ihBody (depth + 1) fun _ => Nat.succ_pos depth
    rw [lines, depthAfter_append, head.depthAfter_around inside, late,
      ihRest _ fun more => Nat.add_pos_left (inner more) _, Nat.add_assoc]
  | elseIf line opens ends rest ih =>
    rw [lines, depthAfter_cons, nextDepth_branch (shape_elseIf opens ends) (inner rfl)]
    exact ih depth inner
  | otherwise rest ih =>
    rw [lines, depthAfter_cons, nextDepth_branch shape_otherwise (inner rfl)]
    exact ih depth nofun

theorem Script.depthAfter_body {kind : Kind} (body : Script kind.branches) (depth : Nat) :
    depthAfter (depth + 1) body.lines = depth + 1 + body.late :=
  body.depthAfter_lines (depth + 1) fun _ => Nat.succ_pos depth

/-- The row of a line that stands as deep as it is nested, or deeper. -/
def Stands (nested : Nat × Text) (row : Text) : Prop :=
  ∃ depth, nested.1 ≤ depth ∧ row = placed depth nested.2

theorem Head.stands {kind : Kind} (head : Head kind) {nesting depth : Nat} (h : nesting ≤ depth) :
    List.Forall₂ Stands (head.keyword.map (nesting, ·))
      (indentLines (nextDepth depth head.line) head.keyword) := by
  cases head with
  | whole line opens ends => exact .nil
  | split line opens left =>
    have shape := lineShape_of_opener (mem_leadingOpeners opens)
    change List.Forall₂ Stands [(nesting, kind.keyword)]
      (indentLines (nextDepth depth line) [kind.keyword])
    rw [indentLines_cons, ownDepth_of_level (shape_keyword kind), nextDepth_of_level shape]
    exact .cons ⟨_, Nat.le_add_right_of_le h, rfl⟩ .nil

theorem Script.stands {branches : Bool} (script : Script branches) {nesting depth : Nat}
    (h : nesting ≤ depth) (inner : branches = true → 0 < depth) :
    List.Forall₂ Stands (script.outline nesting) (indentLines depth script.lines) := by
  induction script generalizing nesting depth with
  | nil => exact .nil
  | plain line level rest ih =>
    rw [lines, outline, indentLines_cons, nextDepth_of_level level, ownDepth_of_level level]
    exact .cons ⟨depth, h, rfl⟩ (ih h inner)
  | block kind head body rest ihBody ihRest =>
    have deeper : nesting ≤ depth + (head.late + body.late) := Nat.le_add_right_of_le h
    rw [lines, outline, indentLines_append, head.indentLines_around body.depthAfter_body,
      head.depthAfter_around body.depthAfter_body, List.append_assoc]
    refine .cons ⟨depth, h, rfl⟩
      (List.rel_append (List.rel_append (head.stands h) ?_) (.cons ?_ ?_))
    · exact ihBody (by omega) fun _ => Nat.succ_pos _
    · exact ⟨_, deeper, rfl⟩
    · exact ihRest deeper fun more => Nat.add_pos_left (inner more) _
  | elseIf line opens ends rest ih =>
    have shape := shape_elseIf opens ends
    rw [lines, outline, indentLines_cons, nextDepth_branch shape (inner rfl),
      ownDepth_of_back shape]
    exact .cons ⟨_, Nat.sub_le_sub_right h 1, rfl⟩ (ih h inner)
  | otherwise rest ih =>
    rw [lines, outline, indentLines_cons, nextDepth_branch shape_otherwise (inner rfl),
      ownDepth_of_back shape_otherwise]
    exact .cons ⟨_, Nat.sub_le_sub_right h 1, rfl⟩ (ih h nofun)

def Resumes (depth : Nat) (lines rows : List Text) : Prop :=
  ∀ blanks next rest, lines = blanks ++ next :: rest → (∀ line ∈ blanks, line = []) → next ≠ [] →
    (lineShape next).dedentBefore = false → rows[blanks.length]? = some (indentation depth ++ next)

theorem resumes (depth : Nat) (lines : List Text) :
    Resumes depth lines (indentLines depth lines) := by
  rintro blanks next rest rfl blank given level
  have own : ownDepth depth next = depth := by simp [ownDepth, level]
  rw [indentLines_append, depthAfter_of_blank blank, indentLines_cons, own, placed_of_ne_nil given,
    ← length_indentLines depth blanks, List.getElem?_append_right (le_refl _), Nat.sub_self,
    List.getElem?_cons_zero]

/-- A block stands square wherever it is in a script, but for late keywords.  Its closing line, and
the line after it unless that one steps back, are as deep as its head, and one step deeper for every
late keyword in the block; what is inside is deeper than the head.  Below other whole blocks it
starts at no depth, and one step deeper for every late keyword in those. -/
theorem blocks_close {kind : Kind} (head : Head kind) (body : Script kind.branches) {script : Text}
    {before after : List Text}
    (spelled : (pieces script).map trim = before ++ (head.around body.lines ++ after)) :
    ∃ depth above inside below,
      pieces (format script) = above ++ ((indentation depth ++ head.line) :: inside ++
        [indentation (depth + (head.late + body.late)) ++ kind.closer] ++ below) ∧
      above.length = before.length ∧
      List.Forall₂ Stands (head.keyword.map (depth, ·) ++ body.outline (depth + 1)) inside ∧
      Resumes (depth + (head.late + body.late)) after below ∧
      depthAfter 0 (before ++ head.around body.lines) = depth + (head.late + body.late) ∧
      ∀ earlier : Script false, before = earlier.lines → depth = earlier.late := by
  have inside := body.depthAfter_body
  let depth := depthAfter 0 before
  have deeper : depth + 1 ≤ depth + head.late + 1 := by omega
  refine ⟨depth, indentLines 0 before,
    indentLines (nextDepth depth head.line) head.keyword ++
      indentLines (depth + head.late + 1) body.lines,
    indentLines (depth + (head.late + body.late)) after, ?_, length_indentLines 0 before,
    List.rel_append (head.stands le_rfl) (body.stands deeper fun _ => Nat.succ_pos _),
    resumes _ after, ?_, ?_⟩
  · rw [pieces_format, spelled, indentLines_append, indentLines_append,
      head.indentLines_around inside, head.depthAfter_around inside,
      placed_of_ne_nil head.line_ne_nil, placed_of_ne_nil (closer_ne_nil kind)]
  · rw [depthAfter_append, head.depthAfter_around inside]
  · rintro earlier rfl
    exact (earlier.depthAfter_lines 0 nofun).trans (Nat.zero_add _)

theorem nested_blocks_close :
    let script := "for f in *; do\nif a; then\nb\nelse\n\nc\nfi\ndone\nd".toList
    let branches : Script true :=
      .plain "b".toList (by decide) (.otherwise (.plain [] (by decide)
        (.plain "c".toList (by decide) .nil)))
    let conditional : Head .conditional := .onOneLine "if".toList (by decide) "a".toList
    let loop : Head .loop := .onOneLine "for".toList (by decide) "f in *".toList
    let body : Script false := .block .conditional conditional branches .nil
    (pieces script).map trim = [] ++ (loop.around body.lines ++ ["d".toList]) ∧
    ∃ inside below,
      pieces (format script) = "for f in *; do".toList :: inside ++ ["done".toList] ++ below ∧
      List.Forall₂ Stands (body.outline 1) inside ∧ below[0]? = some "d".toList := by
  intro script branches conditional loop body
  have spelled : (pieces script).map trim = [] ++ (loop.around body.lines ++ ["d".toList]) := by
    decide
  obtain ⟨depth, above, inside, below, rows, length, stands, next, -, top⟩ :=
    blocks_close loop body spelled
  obtain rfl : depth = 0 := top .nil rfl
  obtain rfl : above = [] := List.eq_nil_of_length_eq_zero length
  have follows := next [] "d".toList [] rfl nofun (by decide) (by decide)
  exact ⟨spelled, inside, below, rows, stands, follows⟩

theorem late_keyword_leaves_closer_deeper :
    let script := "if x\nthen\ny\nfi\nz".toList
    let head : Head .conditional := .onTwoLines "if".toList (by decide) "x".toList
      (by decide)
    let body : Script true := .plain "y".toList (by decide) .nil
    (pieces script).map trim = head.around body.lines ++ ["z".toList] ∧
    pieces (format script) =
      ["if x".toList, "    then".toList, "        y".toList, "    fi".toList, "    z".toList] := by
  decide

end ScriptDesk.Layout
