import ScriptDesk.Proofs.Patch

namespace ScriptDesk

namespace Diff

variable {t body ending rest : Text} {l : Text}

def Unbroken (t : Text) : Prop := ∀ c ∈ t, c ≠ '\n' ∧ c ≠ '\r'

instance (t : Text) : Decidable (Unbroken t) :=
  decidable_of_iff (t.all (fun c => c ≠ '\n' ∧ c ≠ '\r') = true) (by simp [Unbroken])

theorem unbroken_nil : Unbroken [] := List.forall_mem_nil _

inductive Ending : Text → Prop
  | newline : Ending ['\n']
  | carriage : Ending ['\r']
  | both : Ending ['\r', '\n']

inductive Line : Text → Prop
  | ended {body ending : Text} (unbroken : Unbroken body) (ends : Ending ending) :
      Line (body ++ ending)
  | open_ {body : Text} (unbroken : Unbroken body) : Line body

theorem Line.cons {c : Char} (h : Line l) (plain : c ≠ '\n' ∧ c ≠ '\r') : Line (c :: l) := by
  cases h with
  | ended unbroken ends =>
    rw [← List.cons_append]
    exact .ended (List.forall_mem_cons.2 ⟨plain, unbroken⟩) ends
  | open_ unbroken => exact .open_ (List.forall_mem_cons.2 ⟨plain, unbroken⟩)

theorem line_of_mem_lines (t : Text) : ∀ l ∈ lines t, Line l := by
  fun_induction lines t with
  | case1 => exact List.forall_mem_nil _
  | case2 t ih => exact List.forall_mem_cons.2 ⟨@Line.ended [] _ unbroken_nil .both, ih⟩
  | case3 c t _ breaks ih =>
    refine List.forall_mem_cons.2 ⟨?_, ih⟩
    obtain rfl | rfl := breaks
    · exact @Line.ended [] _ unbroken_nil .newline
    · exact @Line.ended [] _ unbroken_nil .carriage
  | case4 c t _ plain none ih =>
    exact List.forall_mem_singleton.2 (Line.cons (.open_ unbroken_nil) (not_or.1 plain))
  | case5 c t _ plain l ls some ih =>
    rw [some] at ih
    obtain ⟨first, others⟩ := List.forall_mem_cons.1 ih
    exact List.forall_mem_cons.2 ⟨first.cons (not_or.1 plain), others⟩

theorem lines_cons {c : Char} (plain : c ≠ '\n' ∧ c ≠ '\r') (t : Text) :
    lines (c :: t) = match lines t with
      | [] => [[c]]
      | l :: ls => (c :: l) :: ls := by
  have single : ∀ u, c = '\r' → t = '\n' :: u → False := fun _ back _ => plain.2 back
  exact (lines.eq_3 c t single).trans (if_neg (not_or.2 plain))

theorem lines_append (unbroken : Unbroken body) (ends : Ending ending)
    (apart : ∀ c ∈ rest.head?, c ≠ '\n') :
    lines (body ++ ending ++ rest) = (body ++ ending) :: lines rest := by
  induction body with
  | nil =>
    cases ends with
    | newline => simp [lines]
    | carriage =>
      rw [List.nil_append, List.singleton_append, lines, if_pos (.inr rfl)]
      rintro _ - rfl
      exact absurd rfl (apart '\n' rfl)
    | both => rfl
  | cons c body ih =>
    obtain ⟨plain, others⟩ := List.forall_mem_cons.1 unbroken
    rw [List.cons_append, List.cons_append, lines_cons plain, ih others]

theorem head_lines (t : Text) : ∀ l ∈ (lines t).head?, l.head? = t.head? := by
  fun_induction lines t with
  | case1 => simp
  | case2 => simp
  | case3 => simp
  | case4 => simp
  | case5 => simp

end Diff

namespace Patch

open Diff (Row Unbroken Ending Line)

variable {body ending rest l : Text}

/-- What may follow a printed line: neither the second half of an ending nor a note. -/
def Fresh (t : Text) : Prop := ∀ c ∈ t.head?, c ≠ '\n' ∧ c ≠ '\\'

theorem dropNotes_cons (fresh : Fresh rest) (l : Text) :
    dropNotes (l :: Diff.lines rest) = l :: dropNotes (Diff.lines rest) := by
  cases lines : Diff.lines rest with
  | nil => rfl
  | cons m ms =>
    have head := Diff.head_lines rest m (by rw [lines]; rfl)
    have other : m ≠ note := by
      rintro rfl
      exact (fresh '\\' head.symm).2 rfl
    rw [dropNotes, if_neg other]

def readRows (t : Text) : Option (List Row × List Hunk) := readLines (dropNotes (Diff.lines t))

theorem readRows_line (unbroken : Unbroken body) (ends : Ending ending) (fresh : Fresh rest) :
    readRows (body ++ ending ++ rest) =
      readLines ((body ++ ending) :: dropNotes (Diff.lines rest)) := by
  rw [readRows, Diff.lines_append unbroken ends fun c mem => (fresh c mem).1, dropNotes_cons fresh]

theorem lines_note (fresh : Fresh rest) :
    Diff.lines (note ++ rest) = note :: Diff.lines rest := by
  have unbroken : Unbroken "\\ No newline at end of file".toList := by decide
  exact Diff.lines_append unbroken .newline fun c mem => (fresh c mem).1

theorem printLine_ended (mark : Char) (body : Text) (ends : Ending ending) :
    Diff.printLine mark (body ++ ending) = mark :: body ++ ending := by
  cases ends <;> simp [Diff.printLine]

theorem printLine_open (mark : Char) (unbroken : Unbroken body) :
    Diff.printLine mark body = mark :: body ++ ['\n'] ++ note := by
  rw [Diff.printLine]
  split
  · next last => exact absurd rfl (unbroken _ (List.mem_of_getLast? last)).1
  · next last => exact absurd rfl (unbroken _ (List.mem_of_getLast? last)).2
  · rw [List.append_assoc]
    rfl

theorem readRows_printLine {mark : Char} (plain : mark ≠ '\n' ∧ mark ≠ '\r') (line : Line l)
    (fresh : Fresh rest) :
    readRows (Diff.printLine mark l ++ rest) =
      readLines ((mark :: l) :: dropNotes (Diff.lines rest)) := by
  cases line with
  | ended unbroken ends =>
    rw [printLine_ended mark _ ends]
    exact readRows_line (List.forall_mem_cons.2 ⟨plain, unbroken⟩) ends fresh
  | open_ unbroken =>
    have marked : Unbroken (mark :: l) := List.forall_mem_cons.2 ⟨plain, unbroken⟩
    have apart : ∀ c ∈ (note ++ rest).head?, c ≠ '\n' := by
      rintro _ ⟨⟩
      decide
    rw [printLine_open mark unbroken, List.append_assoc, readRows,
      Diff.lines_append marked .newline apart, lines_note fresh, dropNotes, if_pos rfl,
      List.dropLast_concat]

theorem readRows_row {r : Row} (line : Line r.line) (fresh : Fresh rest) :
    readRows (r.print ++ rest) = (readRows rest).map fun (rows, hs) => (r :: rows, hs) := by
  rw [readRows.eq_1 rest]
  cases r with
  | kept l =>
    have printed : readRows (Diff.printLine ' ' l ++ rest) = readLines ((' ' :: l) :: _) :=
      readRows_printLine (by decide) line fresh
    rw [Row.print, printed, readLines, Option.map_eq_bind]
    rfl
  | deleted l =>
    have printed : readRows (Diff.printLine '-' l ++ rest) = readLines (('-' :: l) :: _) :=
      readRows_printLine (by decide) line fresh
    rw [Row.print, printed, readLines, Option.map_eq_bind]
    rfl
  | inserted l =>
    have printed : readRows (Diff.printLine '+' l ++ rest) = readLines (('+' :: l) :: _) :=
      readRows_printLine (by decide) line fresh
    rw [Row.print, printed, readLines, Option.map_eq_bind]
    rfl

theorem fresh_row (r : Row) (t : Text) : Fresh (r.print ++ t) := by
  cases r <;> (rintro _ ⟨⟩; decide)

theorem fresh_rows (fresh : Fresh rest) (rows : List Row) :
    Fresh (rows.flatMap Row.print ++ rest) := by
  cases rows with
  | nil => exact fresh
  | cons r rows =>
    rw [List.flatMap_cons, List.append_assoc]
    exact fresh_row r _

theorem readRows_rows (fresh : Fresh rest) (rows : List Row) (each : ∀ r ∈ rows, Line r.line) :
    readRows (rows.flatMap Row.print ++ rest) =
      (readRows rest).map fun (below, hs) => (rows ++ below, hs) := by
  induction rows with
  | nil => simp
  | cons r rows ih =>
    obtain ⟨first, others⟩ := List.forall_mem_cons.1 each
    rw [List.flatMap_cons, List.append_assoc, readRows_row first (fresh_rows fresh rows), ih others,
      Option.map_map]
    rfl

theorem natural?_ofNat (n : Nat) : natural? (Text.ofNat n) = some n := by
  rw [natural?, if_pos ⟨Nat.toDigits_ne_nil, List.all_eq_true.2 fun _ => Text.isDigit_of_mem_ofNat⟩]
  exact congrArg some Nat.ofDigitChars_ten_toDigits

theorem comma_not_mem_ofNat (n : Nat) : ',' ∉ Text.ofNat n := by
  intro mem
  cases Text.isDigit_of_mem_ofNat mem

theorem range?_alone (n : Nat) : range? (Text.ofNat (n + 1)) = some ⟨n, 1⟩ := by
  rw [range?, Text.splitOn_of_not_mem (comma_not_mem_ofNat _)]
  simp [natural?_ofNat]

theorem splitOn_pair (n m : Nat) :
    Text.splitOn ',' (Text.ofNat n ++ ',' :: Text.ofNat m) = [Text.ofNat n, Text.ofNat m] := by
  rw [Text.splitOn_append (comma_not_mem_ofNat n), Text.splitOn_of_not_mem (comma_not_mem_ofNat m)]

theorem range?_print (s : Diff.Extent) : range? s.print = some ⟨s.start, s.stop - s.start⟩ := by
  rw [Diff.Extent.print]
  split
  · next none =>
    have split : Text.splitOn ',' (Text.ofNat s.start ++ ",0".toList) = [Text.ofNat s.start, _] :=
      splitOn_pair s.start 0
    rw [range?, split, none]
    simp [natural?_ofNat]
  · next one =>
    rw [range?_alone, one]
  · next n zero one =>
    rw [range?, splitOn_pair]
    cases len : s.stop - s.start with
    | zero => exact absurd len zero
    | succ m => simp [natural?_ofNat]

theorem plain_of_mem_print {s : Diff.Extent} {c : Char} (mem : c ∈ s.print) :
    c.isDigit = true ∨ c = ',' := by
  rw [Diff.Extent.print] at mem
  split at mem
  · obtain digit | other := List.mem_append.1 mem
    · exact .inl (Text.isDigit_of_mem_ofNat digit)
    · have each : ∀ d ∈ ",0".toList, d.isDigit = true ∨ d = ',' := by simp
      exact each c other
  · exact .inl (Text.isDigit_of_mem_ofNat mem)
  · obtain digit | other := List.mem_append.1 mem
    · exact .inl (Text.isDigit_of_mem_ofNat digit)
    · obtain comma | digit := List.mem_cons.1 other
      · exact .inr comma
      · exact .inl (Text.isDigit_of_mem_ofNat digit)

theorem unbroken_print (s : Diff.Extent) : Unbroken s.print := by
  intro c mem
  obtain digit | rfl := plain_of_mem_print mem
  · constructor <;> (rintro rfl; cases digit)
  · decide

theorem space_not_mem_print (s : Diff.Extent) : ' ' ∉ s.print := by
  intro mem
  obtain digit | comma := plain_of_mem_print mem
  · cases digit
  · cases comma

def rangeLine (old new : Diff.Extent) : Text :=
  "@@ -".toList ++ old.print ++ " +".toList ++ new.print ++ " @@".toList

theorem ranges?_rangeLine (old new : Diff.Extent) :
    ranges? (rangeLine old new ++ ['\n']) =
      some (⟨old.start, old.stop - old.start⟩, ⟨new.start, new.stop - new.start⟩) := by
  have fields : Text.splitOn ' ' (rangeLine old new ++ ['\n']) =
      ["@@".toList, '-' :: old.print, '+' :: new.print, "@@\n".toList] := by
    have whole : rangeLine old new ++ ['\n'] = "@@".toList ++ ' ' :: ('-' :: old.print ++
        ' ' :: ('+' :: new.print ++ ' ' :: "@@\n".toList)) := by
      change "@@ -".toList ++ old.print ++ " +".toList ++ new.print ++ " @@".toList ++ ['\n'] = _
      simp
    have free (mark : Char) (other : ' ' ≠ mark) (s : Diff.Extent) : ' ' ∉ mark :: s.print :=
      List.not_mem_cons_of_ne_of_not_mem other (space_not_mem_print s)
    rw [whole, Text.splitOn_append (by decide), Text.splitOn_append (free '-' (by decide) old),
      Text.splitOn_append (free '+' (by decide) new), Text.splitOn_of_not_mem (by decide)]
  rw [ranges?, fields]
  simp only [range?_print, and_self, if_true, Option.bind_some, Option.map_some]

theorem unbroken_append {s t : Text} (above : Unbroken s) (below : Unbroken t) :
    Unbroken (s ++ t) := List.forall_mem_append.2 ⟨above, below⟩

theorem unbroken_rangeLine (old new : Diff.Extent) : Unbroken (rangeLine old new) :=
  unbroken_append (unbroken_append (unbroken_append (unbroken_append (by decide)
    (unbroken_print old)) (by decide)) (unbroken_print new)) (by decide)

theorem readRows_rangeLine (old new : Diff.Extent) (fresh : Fresh rest) :
    readRows (rangeLine old new ++ ['\n'] ++ rest) = (readRows rest).map fun (rows, hs) =>
      ([], ⟨⟨old.start, old.stop - old.start⟩, ⟨new.start, new.stop - new.start⟩, rows⟩ :: hs) := by
  have ranges := ranges?_rangeLine old new
  rw [readRows_line (unbroken_rangeLine old new) .newline fresh, readRows]
  obtain ⟨t, mark⟩ : ∃ t, rangeLine old new ++ ['\n'] = '@' :: t := ⟨_, rfl⟩
  rw [mark] at ranges ⊢
  rw [readLines]
  cases readLines (dropNotes (Diff.lines rest)) with
  | none => rfl
  | some below => exact congrArg (Option.map _) ranges

end Patch

end ScriptDesk
