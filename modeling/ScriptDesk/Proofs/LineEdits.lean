import ScriptDesk.Text.LineRange
import ScriptDesk.Proofs.Lines
import ScriptDesk.Proofs.Replace

/-! Edits of lines and the pieces of a text.  A text falls into the pieces above a line, each with
its newline behind it, the line, and the pieces below, each with its newline before it; an edit puts
something else in the place of the line. -/

namespace ScriptDesk.Text

variable {t line : Text} {above below : List Text} {n : Nat}

def preceded (ps : List Text) : Text := ps.flatMap ('\n' :: ·)

theorem joined_cons (p : Text) (ps : List Text) : joined (p :: ps) = p ++ preceded ps := by
  induction ps generalizing p with
  | nil => simp [joined, joinWith, preceded]
  | cons q ps ih =>
    have below : joined (q :: ps) = q ++ preceded ps := ih q
    rw [joined] at below
    rw [joined, joinWith_cons '\n' p (List.cons_ne_nil q ps), below]
    rfl

theorem pieces_cons {p : Text} (free : '\n' ∉ p) (t : Text) :
    pieces (p ++ '\n' :: t) = p :: pieces t := splitOn_append free t

theorem pieces_preceded (t : Text) {ps : List Text} (free : ∀ p ∈ ps, '\n' ∉ p) :
    pieces (t ++ preceded ps) = pieces t ++ ps := by
  induction ps generalizing t with
  | nil => simp [preceded]
  | cons p ps ih =>
    obtain ⟨here, others⟩ := List.forall_mem_cons.1 free
    have split : t ++ preceded (p :: ps) = t ++ '\n' :: p ++ preceded ps := by
      simp [preceded]
    rw [split, ih _ others, pieces_append, pieces_of_not_mem here, List.append_assoc]
    rfl

theorem pieces_terminated {ps : List Text} (free : ∀ p ∈ ps, '\n' ∉ p) (t : Text) :
    pieces (terminated ps ++ t) = ps ++ pieces t := by
  induction ps with
  | nil => rfl
  | cons p ps ih =>
    obtain ⟨here, others⟩ := List.forall_mem_cons.1 free
    have split : terminated (p :: ps) ++ t = p ++ '\n' :: (terminated ps ++ t) := by
      simp [terminated]
    rw [split, pieces_cons here, ih others, List.cons_append]

theorem byteSize_terminated (ps : List Text) :
    byteSize (terminated ps) = byteSize ps.flatten + ps.length := by
  induction ps with
  | nil => rfl
  | cons p ps ih =>
    have split : terminated (p :: ps) = p ++ '\n' :: terminated ps := by simp [terminated]
    have newline : '\n'.utf8Size = 1 := rfl
    rw [split, byteSize_append, byteSize, newline, ih, List.flatten_cons, byteSize_append,
      List.length_cons]
    omega

theorem terminated_eq {ps : List Text} (some : ps ≠ []) : terminated ps = joined ps ++ ['\n'] := by
  rw [← joined_concat_nil, joined_concat some]

theorem joined_append (above : List Text) (some : below ≠ []) :
    joined (above ++ below) = terminated above ++ joined below := by
  induction above with
  | nil => rfl
  | cons p above ih =>
    have more : above ++ below ≠ [] := List.append_ne_nil_of_right_ne_nil above some
    rw [List.cons_append, joined, joinWith_cons '\n' p more, ← joined, ih]
    simp [terminated]

theorem around_eq_none_iff : around n t = none ↔ n = 0 ∨ t.lineCount < n := by
  fun_induction around n t with
  | case1 => simp
  | case2 t => simp [lineCount]
  | case3 n => simp [lineCount]
  | case4 n c t ih =>
    rw [Option.map_eq_none_iff, ih]
    by_cases newline : c = '\n'
    · simp [newline, lineCount]
    · simp [newline, lineCount]

theorem replaceLine_eq_none_iff : replaceLine t n line = none ↔ n = 0 ∨ t.lineCount < n := by
  rw [replaceLine, Option.map_eq_none_iff, around_eq_none_iff]

theorem deleteLine_eq_none_iff : deleteLine t n = none ↔ n = 0 ∨ t.lineCount < n := by
  rw [deleteLine, Option.map_eq_none_iff, around_eq_none_iff]

theorem lineStart_eq (n : Nat) (t : Text) :
    lineStart n t = (around n t).map fun a => byteSize a.before := by
  fun_induction around n t with
  | case1 => simp [lineStart]
  | case2 => simp [lineStart, byteSize]
  | case3 => simp [lineStart]
  | case4 n c t ih =>
    rw [lineStart, ih, Option.map_map, Option.map_map]
    rfl

theorem around_append {p : Text} (free : '\n' ∉ p) (n : Nat) (t : Text) :
    around (n + 2) (p ++ '\n' :: t) =
      (around (n + 1) t).map fun a => { a with before := p ++ '\n' :: a.before } := by
  induction p with
  | nil => rfl
  | cons c p ih =>
    obtain ⟨hc, hp⟩ := List.ne_and_not_mem_of_not_mem_cons free
    rw [List.cons_append, around, if_neg (Ne.symm hc), ih hp, Option.map_map]
    rfl

theorem around_one (free : '\n' ∉ line) (below : List Text) :
    around 1 (line ++ preceded below) = some ⟨[], line, preceded below⟩ := by
  have within : ∀ c ∈ line, (c != '\n') = true := by
    intro c hc
    exact bne_iff_ne.2 fun newline => free (newline ▸ hc)
  have stops : (preceded below).takeWhile (· != '\n') = [] ∧
      (preceded below).dropWhile (· != '\n') = preceded below := by
    cases below <;> simp [preceded]
  rw [around, List.takeWhile_append_of_pos within, List.dropWhile_append_of_pos within, stops.1,
    stops.2, List.append_nil]

theorem around_of_pieces (split : pieces t = above ++ line :: below) :
    around (above.length + 1) t = some ⟨terminated above, line, preceded below⟩ := by
  induction above generalizing t with
  | nil =>
    have member : line ∈ pieces t := by simp [split]
    have free := not_mem_of_mem_pieces line member
    rw [← joined_pieces t, split, List.nil_append, joined_cons]
    exact around_one free below
  | cons p above ih =>
    have free : ∀ q ∈ p :: (above ++ line :: below), '\n' ∉ q := by
      rw [← List.cons_append, ← split]
      exact not_mem_of_mem_pieces
    obtain ⟨here, others⟩ := List.forall_mem_cons.1 free
    have some : above ++ line :: below ≠ [] := by simp
    have rest : pieces (joined (above ++ line :: below)) = above ++ line :: below :=
      splitOn_joinWith some others
    have first : t = p ++ '\n' :: joined (above ++ line :: below) := by
      rw [← joined_pieces t, split]
      exact joinWith_cons '\n' p some
    rw [first, List.length_cons, around_append here, ih rest]
    simp [terminated]

theorem exists_pieces (inside : 1 ≤ n ∧ n ≤ lineCount t) :
    ∃ above line below, pieces t = above ++ line :: below ∧ above.length + 1 = n := by
  have bound : n - 1 < (pieces t).length := by
    rw [length_pieces]
    omega
  refine ⟨(pieces t).take (n - 1), (pieces t)[n - 1], (pieces t).drop (n - 1 + 1), ?_, ?_⟩
  · rw [← List.drop_eq_getElem_cons bound, List.take_append_drop]
  · rw [List.length_take]
    omega

theorem free_of_pieces (split : pieces t = above ++ line :: below) :
    (∀ p ∈ above, '\n' ∉ p) ∧ '\n' ∉ line ∧ ∀ p ∈ below, '\n' ∉ p := by
  have free : ∀ p ∈ above ++ line :: below, '\n' ∉ p := split ▸ not_mem_of_mem_pieces
  obtain ⟨left, right⟩ := List.forall_mem_append.1 free
  exact ⟨left, List.forall_mem_cons.1 right⟩

theorem eq_of_pieces (split : pieces t = above ++ line :: below) :
    terminated above ++ line ++ preceded below = t :=
  around_rebuilds _ t _ (around_of_pieces split)

theorem replaceLine_of_pieces (split : pieces t = above ++ line :: below) (new : Text) :
    replaceLine t (above.length + 1) new = some (terminated above ++ new ++ preceded below) := by
  rw [replaceLine, around_of_pieces split]
  rfl

theorem deleteLine_of_pieces (split : pieces t = above ++ line :: below) :
    deleteLine t (above.length + 1) = some (joined (above ++ below)) := by
  rw [deleteLine, around_of_pieces split]
  cases below with
  | nil =>
    cases above with
    | nil => rfl
    | cons p above =>
      rw [List.append_nil, joined_eq_dropLast (List.cons_ne_nil p above)]
      rfl
  | cons q below =>
    rw [joined_append above (List.cons_ne_nil q below), joined_cons]
    rfl

theorem pieces_joined {ps : List Text} (free : ∀ p ∈ ps, '\n' ∉ p) :
    pieces (joined ps) = if ps = [] then [[]] else ps := by
  split
  · next none =>
    rw [none]
    rfl
  · next some => exact splitOn_joinWith some free

theorem first_newline (free : '\n' ∉ line) (rest : Text) :
    First ['\n'] (line ++ '\n' :: rest) line rest := by
  induction line with
  | nil => exact .at_start ['\n'] rest
  | cons c line ih =>
    obtain ⟨hc, hl⟩ := List.ne_and_not_mem_of_not_mem_cons free
    exact (ih hl).cons (by simp [hc])

theorem occurrence_newline (free : '\n' ∉ line) (below : List Text) :
    occurrence ['\n'] (line ++ preceded below) =
      if below = [] then none else some (byteSize line) := by
  cases below with
  | nil =>
    refine occurrence_of_absent fun occurs => free ?_
    simpa [preceded] using occurs.subset (List.mem_singleton_self '\n')
  | cons q below => exact occurrence_of_first (first_newline free (q ++ preceded below))

theorem lineRange_of_pieces (split : pieces t = above ++ line :: below) :
    lineRange t (above.length + 1) =
      some (some (byteSize (terminated above), byteSize (terminated above ++ line))) := by
  obtain ⟨-, free, -⟩ := free_of_pieces split
  have start : lineStart (above.length + 1) t = some (byteSize (terminated above)) := by
    rw [lineStart_eq, around_of_pieces split]
    rfl
  have whole : t = terminated above ++ (line ++ preceded below) := by
    rw [← List.append_assoc, eq_of_pieces split]
  have cut : splitAtByte (byteSize (terminated above)) t =
      some (terminated above, line ++ preceded below) := by
    rw [whole]
    exact splitAtByte_append _ _
  simp only [lineRange, start, cut, Option.map_some, occurrence_newline free]
  cases below with
  | nil => simp [whole, preceded]
  | cons q below => simp

theorem lineRange_of_outside (outside : n = 0 ∨ t.lineCount < n) : lineRange t n = some none := by
  have nowhere : lineStart n t = none := by
    rw [lineStart_eq, around_eq_none_iff.2 outside]
    rfl
  simp only [lineRange, nowhere]

theorem replaceLineBytes_eq (t : Text) (n : Nat) (new : Text) :
    replaceLineBytes t n new = some (replaceLine t n new) := by
  by_cases inside : 1 ≤ n ∧ n ≤ lineCount t
  · obtain ⟨above, line, below, split, rfl⟩ := exists_pieces inside
    have written := overwrite_append (terminated above) line new (preceded below)
    rw [eq_of_pieces split] at written
    simp only [replaceLineBytes, editLine, lineRange_of_pieces split, replaceLine_of_pieces split,
      byteSize_append, written, Option.map_some]
  · have outside : n = 0 ∨ t.lineCount < n := by omega
    rw [replaceLineBytes, editLine, lineRange_of_outside outside,
      replaceLine_eq_none_iff.2 outside]

theorem splitAtByte_last (some : above ≠ []) (line : Text) :
    splitAtByte (byteSize (terminated above) - 1) (terminated above ++ line) =
      .some (joined above, '\n' :: line) := by
  have newline : byteSize ['\n'] = 1 := rfl
  rw [terminated_eq some, byteSize_append, newline, Nat.add_sub_cancel, List.append_assoc]
  exact splitAtByte_append (joined above) ('\n' :: line)

theorem overwrite_line (above : Text) (line rest : Text) :
    overwrite (above ++ line ++ '\n' :: rest) (byteSize above) (byteSize (above ++ line) + 1) [] =
      some (above ++ rest) := by
  have newline : byteSize ['\n'] = 1 := rfl
  have cut := overwrite_append above (line ++ ['\n']) [] rest
  rwa [byteSize_append, newline, ← Nat.add_assoc, ← byteSize_append, List.append_nil,
    ← List.append_assoc, List.append_assoc _ _ rest, List.singleton_append] at cut

theorem deleteLineBytes_eq (t : Text) (n : Nat) :
    deleteLineBytes t n = some (deleteLine t n) := by
  by_cases inside : 1 ≤ n ∧ n ≤ lineCount t
  · obtain ⟨above, line, below, split, rfl⟩ := exists_pieces inside
    have whole := eq_of_pieces split
    simp only [deleteLineBytes, editLine, lineRange_of_pieces split, deleteLine_of_pieces split]
    cases below with
    | nil =>
      have text : t = terminated above ++ line := by simpa [preceded] using whole.symm
      rw [text, if_neg (Nat.lt_irrefl _), List.append_nil]
      cases above with
      | nil => rfl
      | cons p above =>
        have given : terminated (p :: above) ≠ [] := by simp [terminated]
        rw [if_pos (byteSize_pos given), splitAtByte_last (List.cons_ne_nil p above)]
        rfl
    | cons q below =>
      have text : t = terminated above ++ line ++ '\n' :: joined (q :: below) := by
        rw [joined_cons]
        exact whole.symm
      have more : byteSize (terminated above ++ line) < byteSize t := by
        rw [text, byteSize_append _ ('\n' :: _)]
        exact Nat.lt_add_of_pos_right (byteSize_pos (List.cons_ne_nil _ _))
      rw [if_pos more, joined_append above (List.cons_ne_nil q below), text, overwrite_line]
      rfl
  · have outside : n = 0 ∨ t.lineCount < n := by omega
    rw [deleteLineBytes, editLine, lineRange_of_outside outside, deleteLine_eq_none_iff.2 outside]

theorem pieces_replaceLine (split : pieces t = above ++ line :: below) (new : Text) :
    (replaceLine t (above.length + 1) new).map pieces = some (above ++ pieces new ++ below) := by
  obtain ⟨up, -, down⟩ := free_of_pieces split
  rw [replaceLine_of_pieces split, Option.map_some, pieces_preceded _ down, pieces_terminated up]

theorem pieces_deleteLine (split : pieces t = above ++ line :: below) :
    (deleteLine t (above.length + 1)).map pieces =
      some (if above ++ below = [] then [[]] else above ++ below) := by
  obtain ⟨up, -, down⟩ := free_of_pieces split
  rw [deleteLine_of_pieces split, Option.map_some,
    pieces_joined (List.forall_mem_append.2 ⟨up, down⟩)]

theorem lineStart_of_pieces (split : pieces t = above ++ line :: below) :
    lineStart (above.length + 1) t = some (byteSize above.flatten + above.length) := by
  rw [lineStart_eq, around_of_pieces split, Option.map_some, byteSize_terminated]

/-- Lines are counted as the pieces of a text, from 1, and an edit of a line that is there is an
edit of the list of pieces: its piece gives way to the pieces of what is set, or is left out, and an
empty text is one empty piece.  By bytes, both edits come to the same without ever cutting into a
character. -/
theorem line_edits_are_list_edits (t : Text) (n : Nat) (new : Text) :
    (pieces t).length = lineCount t ∧
    lineStart n t =
      (if 1 ≤ n ∧ n ≤ lineCount t then
        some (byteSize ((pieces t).take (n - 1)).flatten + (n - 1)) else none) ∧
    (replaceLine t n new).map pieces =
      (if 1 ≤ n ∧ n ≤ lineCount t then
        some ((pieces t).take (n - 1) ++ pieces new ++ (pieces t).drop n) else none) ∧
    (deleteLine t n).map pieces =
      (if 1 ≤ n ∧ n ≤ lineCount t then
        some (if lineCount t = 1 then [[]] else (pieces t).eraseIdx (n - 1)) else none) ∧
    replaceLineBytes t n new = some (replaceLine t n new) ∧
    deleteLineBytes t n = some (deleteLine t n) := by
  refine ⟨length_pieces t, ?_⟩
  by_cases inside : 1 ≤ n ∧ n ≤ lineCount t
  · simp only [if_pos inside]
    obtain ⟨above, line, below, split, rfl⟩ := exists_pieces inside
    have lone : lineCount t = 1 ↔ above ++ below = [] := by
      rw [← length_pieces, split, ← List.length_eq_zero_iff]
      simp only [List.length_append, List.length_cons]
      omega
    have erased : (above ++ line :: below).eraseIdx above.length = above ++ below := by
      rw [List.eraseIdx_append_of_length_le (Nat.le_refl _), Nat.sub_self, List.eraseIdx_cons_zero]
    refine ⟨?_, ?_, ?_, replaceLineBytes_eq t _ new, deleteLineBytes_eq t _⟩
    · rw [lineStart_of_pieces split, split, Nat.add_sub_cancel, List.take_left]
    · rw [pieces_replaceLine split, split, Nat.add_sub_cancel, List.take_left]
      simp
    · rw [pieces_deleteLine split, split, Nat.add_sub_cancel, erased]
      simp only [lone]
  · have outside : n = 0 ∨ t.lineCount < n := by omega
    simp only [if_neg inside]
    refine ⟨?_, ?_, ?_, replaceLineBytes_eq t n new, deleteLineBytes_eq t n⟩
    · rw [lineStart_eq, around_eq_none_iff.2 outside, Option.map_none]
    · rw [replaceLine_eq_none_iff.2 outside, Option.map_none]
    · rw [deleteLine_eq_none_iff.2 outside, Option.map_none]

example : deleteLineBytes "é\nb".toList 2 = some (some ['é']) := by decide

/-- The pieces of a text but for an empty one at the end, which is where the next line goes. -/
def written (t : Text) : List Text :=
  if t.isEmpty || t.endsLine then (pieces t).dropLast else pieces t

theorem exists_last_piece (t : Text) : ∃ above line, pieces t = above ++ [line] :=
  ⟨_, _, (List.dropLast_concat_getLast (splitOn_ne_nil '\n' t)).symm⟩

theorem eq_of_last_piece (split : pieces t = above ++ [line]) : t = terminated above ++ line := by
  simpa [preceded] using (eq_of_pieces split).symm

theorem isEmpty_or_endsLine (split : pieces t = above ++ [line]) :
    (t.isEmpty || t.endsLine) = line.isEmpty := by
  obtain ⟨-, free, -⟩ := free_of_pieces split
  have whole := eq_of_last_piece split
  cases above with
  | nil =>
    obtain rfl : t = line := whole
    rw [endsLine_of_not_mem free, Bool.or_false]
  | cons p above =>
    rw [terminated_eq (List.cons_ne_nil p above), List.append_assoc] at whole
    rw [whole, List.singleton_append, endsLine_append, endsLine_of_not_mem free]
    simp

theorem written_of_pieces (split : pieces t = above ++ [line]) :
    written t = if line = [] then above else above ++ [line] := by
  rw [written, isEmpty_or_endsLine split, split, List.dropLast_concat]
  simp only [List.isEmpty_iff]

theorem pieces_appendLine (t : Text) (free : '\n' ∉ line) :
    pieces (appendLine t line) = written t ++ [line] := by
  obtain ⟨above, last, split⟩ := exists_last_piece t
  obtain ⟨up, -, -⟩ := free_of_pieces split
  rw [appendLine, isEmpty_or_endsLine split, written_of_pieces split]
  cases last with
  | nil =>
    have whole : t = terminated above := by simpa using eq_of_last_piece split
    simp only [List.isEmpty_nil, if_true]
    rw [whole, pieces_terminated up, pieces_of_not_mem free]
  | cons c last =>
    rw [if_neg (by simp), if_neg (List.cons_ne_nil c last), pieces_append, split,
      pieces_of_not_mem free]

theorem written_appendLine (t : Text) (free : '\n' ∉ line) :
    written (appendLine t line) = written t ++ [line].filter (· ≠ []) := by
  rw [written_of_pieces (pieces_appendLine t free)]
  cases line with
  | nil => simp
  | cons c line => simp

theorem written_appendLines {ls : List Text} (free : ∀ l ∈ ls, '\n' ∉ l) (t : Text) :
    written (ls.foldl appendLine t) = written t ++ ls.filter (· ≠ []) := by
  induction ls generalizing t with
  | nil => simp
  | cons l ls ih =>
    obtain ⟨here, others⟩ := List.forall_mem_cons.1 free
    rw [List.foldl_cons, ih others, written_appendLine t here, List.append_assoc,
      ← List.filter_append, List.singleton_append]

/-- Lines appended one after another all arrive, behind what was written before, just when only the
last of them may be empty.  Of the others the empty ones leave nothing behind. -/
theorem appended_lines_arrive (t : Text) {ls : List Text} {last : Text}
    (free : ∀ l ∈ ls ++ [last], '\n' ∉ l) :
    pieces ((ls ++ [last]).foldl appendLine t) = written t ++ ls.filter (· ≠ []) ++ [last] ∧
    (pieces ((ls ++ [last]).foldl appendLine t) = written t ++ (ls ++ [last]) ↔
      ∀ l ∈ ls, l ≠ []) := by
  obtain ⟨others, here⟩ := List.forall_mem_append.1 free
  have arrived : pieces ((ls ++ [last]).foldl appendLine t) =
      written t ++ ls.filter (· ≠ []) ++ [last] := by
    rw [List.foldl_concat, pieces_appendLine _ (here last (List.mem_singleton_self last)),
      written_appendLines others]
  refine ⟨arrived, ?_⟩
  rw [arrived, ← List.append_assoc, List.append_cancel_right_eq, List.append_cancel_left_eq,
    List.filter_eq_self]
  simp

theorem empty_line_arrives_last :
    (∀ l ∈ [['a'], ['b']] ++ [([] : Text)], '\n' ∉ l) ∧
    (∀ l ∈ [['a'], ['b']], l ≠ ([] : Text)) ∧
    pieces (([['a'], ['b']] ++ [[]]).foldl appendLine "x\n".toList) =
      [['x'], ['a'], ['b'], []] := by
  have free : ∀ l ∈ [['a'], ['b']] ++ [([] : Text)], '\n' ∉ l := by decide
  have given : ∀ l ∈ [['a'], ['b']], l ≠ ([] : Text) := by decide
  exact ⟨free, given, (appended_lines_arrive "x\n".toList free).2.2 given⟩

theorem empty_line_gives_way :
    written "a\n".toList = [['a']] ∧
    pieces ([[], ['b']].foldl appendLine "a\n".toList) = [['a'], ['b']] ∧
    pieces ([[], ['b']].foldl appendLine "a\n".toList) ≠ written "a\n".toList ++ [[], ['b']] := by
  decide

end ScriptDesk.Text
