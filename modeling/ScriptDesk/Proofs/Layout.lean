import ScriptDesk.Layout
import ScriptDesk.Proofs.Lines

/-! What indenting a script does to its lines.  It takes every line trimmed and puts spaces in front
of it, so the trimmed lines are all that it depends on, and they can be told from what it makes of
them: indented scripts are canonical forms of their trimmed lines.  How many spaces a line gets hangs
on the shapes of those above it, and each line leads to a depth for the next. -/

namespace ScriptDesk.Layout

open Text (pieces rows joined trim)

def indentLines : Nat → List Text → List Text
  | _, [] => []
  | depth, line :: lines =>
    if line.isEmpty then [] :: indentLines depth lines
    else
      let shape := lineShape line
      let depth := if shape.dedentBefore then depth - 1 else depth
      let inner := if shape.indentAfter then depth + 1 else depth
      (indentation depth ++ line) :: indentLines inner lines

def ownDepth (depth : Nat) (line : Text) : Nat :=
  if (lineShape line).dedentBefore then depth - 1 else depth

def nextDepth (depth : Nat) (line : Text) : Nat :=
  if (lineShape line).indentAfter then ownDepth depth line + 1 else ownDepth depth line

def depthAfter (depth : Nat) (lines : List Text) : Nat :=
  (lines.filter (· ≠ [])).foldl nextDepth depth

def placed (depth : Nat) (line : Text) : Text :=
  if line = [] then [] else indentation depth ++ line

@[simp] theorem depthAfter_nil (depth : Nat) : depthAfter depth [] = depth := rfl

theorem depthAfter_cons (depth : Nat) (line : Text) (lines : List Text) :
    depthAfter depth (line :: lines) = depthAfter (nextDepth depth line) lines := by
  cases line with
  | nil => rfl
  | cons c line => rfl

theorem depthAfter_append (depth : Nat) (above below : List Text) :
    depthAfter depth (above ++ below) = depthAfter (depthAfter depth above) below := by
  simp [depthAfter]

theorem depthAfter_of_blank {lines : List Text} (h : ∀ line ∈ lines, line = []) (depth : Nat) :
    depthAfter depth lines = depth := by
  have none : lines.filter (· ≠ []) = [] := List.filter_eq_nil_iff.2 (by simpa using h)
  rw [depthAfter, none, List.foldl_nil]

theorem placed_of_ne_nil {line : Text} (h : line ≠ []) (depth : Nat) :
    placed depth line = indentation depth ++ line := if_neg h

theorem indentLines_cons (depth : Nat) (line : Text) (lines : List Text) :
    indentLines depth (line :: lines) =
      placed (ownDepth depth line) line :: indentLines (nextDepth depth line) lines := by
  cases line with
  | nil => rfl
  | cons c line => rfl

theorem indentLines_append (depth : Nat) (above below : List Text) :
    indentLines depth (above ++ below) =
      indentLines depth above ++ indentLines (depthAfter depth above) below := by
  induction above generalizing depth with
  | nil => rfl
  | cons line above ih =>
    rw [List.cons_append, indentLines_cons, ih, indentLines_cons, depthAfter_cons, List.cons_append]

theorem length_indentLines (depth : Nat) (lines : List Text) :
    (indentLines depth lines).length = lines.length := by
  induction lines generalizing depth with
  | nil => rfl
  | cons line lines ih => rw [indentLines_cons, List.length_cons, List.length_cons, ih]

theorem indentLines_ne_nil {lines : List Text} (h : lines ≠ []) (depth : Nat) :
    indentLines depth lines ≠ [] := by
  rwa [Ne, ← List.length_eq_zero_iff, length_indentLines, List.length_eq_zero_iff]

theorem placed_eq_spaces_append (depth : Nat) (line : Text) :
    ∃ n, placed depth line = Text.spaces n ++ line := by
  rw [placed]
  split
  · next blank => exact ⟨0, by rw [blank]; rfl⟩
  · exact ⟨_, rfl⟩

theorem blank_spaces (n : Nat) : ∀ c ∈ Text.spaces n, Text.isBlank c = true := by
  intro c hc
  rw [List.eq_of_mem_replicate hc]
  rfl

theorem map_trim_indentLines (depth : Nat) {lines : List Text}
    (trimmed : ∀ line ∈ lines, trim line = line) :
    (indentLines depth lines).map trim = lines := by
  induction lines generalizing depth with
  | nil => rfl
  | cons line lines ih =>
    obtain ⟨here, others⟩ := List.forall_mem_cons.1 trimmed
    obtain ⟨n, row⟩ := placed_eq_spaces_append (ownDepth depth line) line
    rw [indentLines_cons, List.map_cons, row, Text.append_trim (blank_spaces n), here, ih _ others]

theorem not_mem_placed (depth : Nat) {line : Text} (h : '\n' ∉ line) :
    '\n' ∉ placed depth line := by
  obtain ⟨n, row⟩ := placed_eq_spaces_append depth line
  simp [row, Text.spaces, h]

theorem not_mem_of_mem_indentLines (depth : Nat) {lines : List Text}
    (h : ∀ line ∈ lines, '\n' ∉ line) : ∀ line ∈ indentLines depth lines, '\n' ∉ line := by
  induction lines generalizing depth with
  | nil => exact fun line hl => absurd hl List.not_mem_nil
  | cons line lines ih =>
    obtain ⟨here, others⟩ := List.forall_mem_cons.1 h
    rw [indentLines_cons]
    exact List.forall_mem_cons.2 ⟨not_mem_placed _ here, ih _ others⟩

theorem indentRows_eq (depth : Nat) (rows : List Text) :
    indentRows depth rows = Text.terminated (indentLines depth (rows.map trim)) := by
  induction rows generalizing depth with
  | nil => rfl
  | cons row rows ih =>
    simp only [indentRows, List.map_cons, indentLines]
    split
    · simp [ih, Text.terminated]
    · simp [ih, Text.terminated]

theorem format_eq_joined (script : Text) :
    format script = joined (indentLines 0 ((pieces script).map trim)) := by
  rw [Text.map_trim_pieces, format, indentRows_eq]
  cases ends : script.endsLine with
  | true =>
    rw [if_pos rfl, Bool.or_true, if_pos rfl, indentLines_append]
    exact (Text.joined_concat_nil _).symm
  | false =>
    cases script with
    | nil => rfl
    | cons c script =>
      have nonempty : (rows (c :: script)).map trim ≠ [] := by
        simp [rows, Text.lines_ne_nil (List.cons_ne_nil c script)]
      rw [if_neg Bool.false_ne_true, Text.joined_eq_dropLast]
      · simp
      · simpa using indentLines_ne_nil nonempty 0

theorem pieces_format (script : Text) :
    pieces (format script) = indentLines 0 ((pieces script).map trim) := by
  rw [format_eq_joined]
  refine Text.splitOn_joinWith (indentLines_ne_nil ?_ 0) (not_mem_of_mem_indentLines 0 ?_)
  · simp [pieces, Text.splitOn_ne_nil]
  · refine List.forall_mem_map.2 fun p hp newline => ?_
    exact Text.not_mem_of_mem_pieces p hp (Text.mem_of_mem_trim newline)

theorem map_trim_pieces_format (script : Text) :
    (pieces (format script)).map trim = (pieces script).map trim := by
  rw [pieces_format]
  exact map_trim_indentLines 0 (List.forall_mem_map.2 fun p _ => Text.trim_trim p)

theorem format_congr {script other : Text}
    (same : (pieces script).map trim = (pieces other).map trim) :
    format script = format other := by
  rw [format_eq_joined, format_eq_joined, same]

/-- Indenting is canonical: doing it again changes nothing, and two scripts come to the same just
when their lines are the same up to the blanks at their ends.  It keeps every line, in its place and
with all but those blanks. -/
theorem format_canonical (script other : Text) :
    format (format script) = format script ∧
    (format script = format other ↔ (pieces script).map trim = (pieces other).map trim) ∧
    (pieces (format script)).map trim = (pieces script).map trim := by
  refine ⟨format_congr (map_trim_pieces_format script), ⟨?_, format_congr⟩,
    map_trim_pieces_format script⟩
  intro same
  calc
    (pieces script).map trim = (pieces (format script)).map trim :=
      (map_trim_pieces_format script).symm
    _ = (pieces (format other)).map trim := by rw [same]
    _ = (pieces other).map trim := map_trim_pieces_format other

example : format "\tif a;then\r\n b \r\n\r\nfi".toList =
    format "if a;then\nb\n\u3000\nfi\r".toList := by decide

theorem placed_eq_nil_iff {depth : Nat} {line : Text} : placed depth line = [] ↔ line = [] := by
  simp +contextual [placed]

theorem format_of_not_mem {line : Text} (h : '\n' ∉ line) :
    format line = placed (ownDepth 0 (trim line)) (trim line) := by
  rw [format_eq_joined, Text.pieces_of_not_mem h]
  exact congrArg joined (indentLines_cons 0 (trim line) [])

theorem format_append (above : Text) {last : Text} (h : '\n' ∉ last) :
    ∃ depth, format (above ++ '\n' :: last) =
      format above ++ '\n' :: placed depth (trim last) := by
  have some : indentLines 0 ((pieces above).map trim) ≠ [] :=
    indentLines_ne_nil (by simp [pieces, Text.splitOn_ne_nil]) 0
  refine ⟨ownDepth (depthAfter 0 ((pieces above).map trim)) (trim last), ?_⟩
  rw [format_eq_joined, Text.pieces_append, Text.pieces_of_not_mem h, List.map_append,
    indentLines_append, List.map_singleton, indentLines_cons, format_eq_joined]
  exact Text.joined_concat some _

def EndsBlank (script : Text) : Prop :=
  ∃ above blanks, script = above ++ '\n' :: blanks ∧ blanks ≠ [] ∧
    ∀ c ∈ blanks, Text.isBlank c = true ∧ c ≠ '\n'

theorem endsBlank_append (above : Text) {last : Text} (h : '\n' ∉ last) :
    EndsBlank (above ++ '\n' :: last) ↔ last ≠ [] ∧ ∀ c ∈ last, Text.isBlank c = true := by
  constructor
  · rintro ⟨other, blanks, same, given, blank⟩
    have free : '\n' ∉ blanks := fun newline => (blank '\n' newline).2 rfl
    have split := congrArg pieces same
    rw [Text.pieces_append, Text.pieces_append, Text.pieces_of_not_mem h,
      Text.pieces_of_not_mem free] at split
    obtain ⟨-, rfl⟩ := List.append_singleton_inj.1 split
    exact ⟨given, fun c hc => (blank c hc).1⟩
  · rintro ⟨given, blank⟩
    exact ⟨above, last, rfl, given, fun c hc => ⟨blank c hc, fun newline => h (newline ▸ hc)⟩⟩

theorem not_endsLine_of_endsBlank {script : Text} (h : EndsBlank script) :
    script.endsLine = false := by
  obtain ⟨above, blanks, rfl, given, blank⟩ := h
  have free : '\n' ∉ blanks := fun newline => (blank '\n' newline).2 rfl
  rw [Text.endsLine_append, Text.endsLine_of_not_mem free, Bool.or_false]
  exact List.isEmpty_eq_false_iff.2 given

theorem endsLine_format_append (above : Text) {last : Text} (h : '\n' ∉ last) :
    (format (above ++ '\n' :: last)).endsLine = true ↔ ∀ c ∈ last, Text.isBlank c = true := by
  obtain ⟨depth, row⟩ := format_append above h
  have free : '\n' ∉ placed depth (trim last) :=
    not_mem_placed depth fun newline => h (Text.mem_of_mem_trim newline)
  rw [row, Text.endsLine_append, Text.endsLine_of_not_mem free, Bool.or_false, List.isEmpty_iff,
    placed_eq_nil_iff, Text.trim_eq_nil_iff]

theorem endsLine_format_iff (script : Text) :
    (format script).endsLine = true ↔ script.endsLine = true ∨ EndsBlank script := by
  rcases Text.lastLine script with one | ⟨above, last, rfl, free⟩
  · have row : '\n' ∉ format script := by
      rw [format_of_not_mem one]
      exact not_mem_placed _ fun newline => one (Text.mem_of_mem_trim newline)
    have visible : ¬EndsBlank script := by
      rintro ⟨above, blanks, rfl, -⟩
      simp at one
    simp [Text.endsLine_of_not_mem one, Text.endsLine_of_not_mem row, visible]
  · have ended : (above ++ '\n' :: last).endsLine = true ↔ last = [] := by
      rw [Text.endsLine_append, Text.endsLine_of_not_mem free, Bool.or_false, List.isEmpty_iff]
    rw [endsLine_format_append above free, ended, endsBlank_append above free]
    cases last with
    | nil => simp
    | cons c last => simp

/-- A script that ends with a newline does so when it is indented, and one that does not does not
either, unless its last line is made of blanks: that line is emptied, and the newline above it comes
last. -/
theorem final_newline_kept (script : Text) :
    ((format script).endsLine = true ↔ script.endsLine = true ∨ EndsBlank script) ∧
    ((format script).endsLine = script.endsLine ↔ ¬EndsBlank script) := by
  have ended := endsLine_format_iff script
  refine ⟨ended, ?_⟩
  cases kept : script.endsLine with
  | true =>
    have visible : ¬EndsBlank script := by
      intro blank
      rw [not_endsLine_of_endsBlank blank] at kept
      cases kept
    exact iff_of_true (ended.2 (.inl kept)) visible
  | false =>
    rw [← Bool.not_eq_true, ended, kept]
    simp

theorem blank_last_line_leaves_newline :
    Text.endsLine "a\n ".toList = false ∧ format "a\n ".toList = "a\n".toList ∧
      Text.endsLine (format "a\n ".toList) = true := by decide

end ScriptDesk.Layout
