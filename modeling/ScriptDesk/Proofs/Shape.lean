import ScriptDesk.Layout
import ScriptDesk.Proofs.Lines
import Mathlib.Data.List.DropRight
import Mathlib.Data.List.Infix

/-! The shape of a line.  It hangs on the ends of the line alone: its first word, its last word, and
whether it closes a block of its own.  A line that does so ends in no word that opens a block, so
what a leading word opens stays open exactly on the lines that do not close it. -/

namespace ScriptDesk
namespace Text

theorem words_cons_of_blank {c : Char} (h : isBlank c = true) (t : Text) :
    words (c :: t) = words t := by
  cases t <;> simp [words, h]

theorem words_cons_of_visible {c : Char} (h : isBlank c = false) (t : Text) :
    ∃ word rest, words (c :: t) = (c :: word) :: rest := by
  cases t with
  | nil => exact ⟨[], [], by simp [words, h]⟩
  | cons d t =>
    rw [words, if_neg (by simp [h])]
    split
    · exact ⟨[], _, rfl⟩
    · split
      · exact ⟨[], [], rfl⟩
      · next word rest _ => exact ⟨word, rest, rfl⟩

theorem words_append {c : Char} (h : isBlank c = true) (before after : Text) :
    words (before ++ c :: after) = words before ++ words after := by
  induction before using words.induct with
  | case1 => exact words_cons_of_blank h after
  | case2 d hd =>
    rw [List.singleton_append, words_cons_of_blank hd, words_cons_of_blank h, words, if_pos hd]
    rfl
  | case3 d hd => simp [words, hd, h, words_cons_of_blank h]
  | case4 d e before hd ih =>
    rw [List.cons_append, words_cons_of_blank hd, ih, words_cons_of_blank hd]
  | case5 d e before hd he ih =>
    rw [List.cons_append, List.cons_append] at *
    simp [words, hd, he, ih]
  | case6 d e before hd he none ih =>
    obtain ⟨word, rest, some⟩ := words_cons_of_visible (by simpa using he) before
    simp [some] at none
  | case7 d e before hd he word rest some ih =>
    rw [some] at ih
    simp only [List.cons_append] at *
    simp [words, hd, he, ih, some]

theorem words_of_visible {word : Text} (given : word ≠ [])
    (h : ∀ c ∈ word, isBlank c = false) : words word = [word] := by
  induction word with
  | nil => exact absurd rfl given
  | cons c word ih =>
    obtain ⟨hc, hw⟩ := List.forall_mem_cons.1 h
    cases word with
    | nil => simp [words, hc]
    | cons d word =>
      have hd := hw d List.mem_cons_self
      simp [words, hc, hd, ih (List.cons_ne_nil d word) hw]

theorem words_append_blanks {blanks : Text} (h : ∀ c ∈ blanks, isBlank c = true) (t : Text) :
    words (t ++ blanks) = words t := by
  induction blanks generalizing t with
  | nil => rw [List.append_nil]
  | cons c blanks ih =>
    obtain ⟨hc, hb⟩ := List.forall_mem_cons.1 h
    rw [words_append hc]
    simpa [words] using ih hb []

theorem words_append_word {front word : Text}
    (apart : ∀ c, front.getLast? = some c → isBlank c = true) (given : word ≠ [])
    (h : ∀ c ∈ word, isBlank c = false) :
    words (front ++ word) = words front ++ [word] := by
  rcases List.eq_nil_or_concat' front with rfl | ⟨rest, c, rfl⟩
  · exact words_of_visible given h
  · have hc : isBlank c = true := apart c (by simp)
    rw [List.append_assoc, List.singleton_append, words_append hc, words_append hc,
      words_of_visible given h, words, List.append_nil]

theorem exists_last_run {t : Text} (some : t ≠ []) (ends : isBlank (t.getLast some) = false) :
    ∃ front word, front ++ word = t ∧ (∀ c, front.getLast? = .some c → isBlank c = true) ∧
      word ≠ [] ∧ ∀ c ∈ word, isBlank c = false := by
  refine ⟨t.rdropWhile (!isBlank ·), t.rtakeWhile (!isBlank ·),
    List.rdropWhile_append_rtakeWhile, ?_, ?_, ?_⟩
  · intro c last
    have front : t.rdropWhile (!isBlank ·) ≠ [] := by
      intro none
      simp [none] at last
    have stop := List.rdropWhile_last_not _ t front
    rw [List.getLast?_eq_some_getLast front, Option.some_inj] at last
    simpa [last] using stop
  · rw [Ne, List.rtakeWhile_eq_nil_iff]
    exact fun none => none some (by simp [ends])
  · intro c hc
    simpa using List.mem_rtakeWhile_imp hc

theorem getLastD_words (t : Text) :
    ∃ front blanks, t = front ++ ((words t).getLastD [] ++ blanks) ∧
      ∀ c ∈ blanks, isBlank c = true := by
  have blank : ∀ c ∈ t.rtakeWhile isBlank, isBlank c = true := fun c => List.mem_rtakeWhile_imp
  have whole : t.rdropWhile isBlank ++ t.rtakeWhile isBlank = t :=
    List.rdropWhile_append_rtakeWhile
  have same : words t = words (t.rdropWhile isBlank) := by
    rw [← words_append_blanks blank (t.rdropWhile isBlank), whole]
  by_cases none : t.rdropWhile isBlank = []
  · refine ⟨[], t, ?_, List.rdropWhile_eq_nil_iff.1 none⟩
    rw [same, none]
    rfl
  · have ends := List.rdropWhile_last_not isBlank t none
    obtain ⟨front, word, run, apart, given, visible⟩ := exists_last_run none (by simpa using ends)
    refine ⟨front, t.rtakeWhile isBlank, ?_, blank⟩
    rw [same, ← run, words_append_word apart given visible, List.getLastD_concat,
      ← List.append_assoc, run, whole]

theorem rdropWhile_append {p : Char → Bool} {kept stops : Text} (some : kept ≠ [])
    (ends : kept.rdropWhile p = kept) (h : ∀ c ∈ stops, p c = true) (front : Text) :
    (front ++ (kept ++ stops)).rdropWhile p = front ++ kept := by
  obtain rfl | ⟨rest, c, rfl⟩ := List.eq_nil_or_concat' kept
  · exact absurd rfl some
  · have last : ¬p c = true := by
      simpa using List.rdropWhile_eq_self_iff.1 ends some
    rw [← List.append_assoc, List.rdropWhile, List.reverse_append,
      List.dropWhile_append_of_pos (by simpa using h), ← List.rdropWhile, ← List.append_assoc,
      List.rdropWhile_concat_neg _ _ _ last]

end Text

namespace Layout

theorem head?_firstWord {c : Char} (visible : Text.isBlank c = false) (other : c ≠ ';') (t : Text) :
    (firstWord (c :: t)).head? = some c := by
  obtain ⟨word, rest, words⟩ := Text.words_cons_of_visible visible t
  rw [firstWord, words, List.headD_cons]
  have given : Text.trimSemicolons (c :: word) ≠ [] := fun none =>
    other (by simpa using List.rdropWhile_eq_nil_iff.1 none c List.mem_cons_self)
  obtain ⟨semicolons, whole⟩ : Text.trimSemicolons (c :: word) <+: c :: word :=
    List.rdropWhile_prefix _ _
  rw [← List.head?_append_of_ne_nil _ given, whole, List.head?_cons]

theorem dedentBefore_of_opener {line : Text} (opens : firstWord line ∈ leadingOpeners) :
    (lineShape line).dedentBefore = false := by
  have apart : ∀ word ∈ leadingOpeners, word ∉ closers ∧ word.head? ≠ some '}' := by decide
  obtain ⟨stays, brace⟩ := apart _ opens
  have first : line.head? ≠ some '}' := by
    intro head
    obtain ⟨rest, rfl⟩ := List.head?_eq_some_iff.1 head
    exact brace (head?_firstWord (by decide) (by decide) rest)
  simp [lineShape, stays, first]

theorem firstWord_append {word : Text} (one : Text.words word = [word])
    (ends : Text.trimSemicolons word = word) (rest : Text) :
    firstWord (word ++ ' ' :: rest) = word := by
  rw [firstWord, Text.words_append rfl, one, List.singleton_append, List.headD_cons, ends]

theorem lastWord_append {word : Text} (one : Text.words word = [word])
    (ends : Text.trimSemicolons word = word) (front : Text) :
    lastWord (front ++ ' ' :: word) = word := by
  rw [lastWord, Text.words_append rfl, one, List.getLastD_concat, ends]

def isStop (c : Char) : Bool := Text.isBlank c || c == ';'

theorem stops_lastWord (line : Text) :
    ∃ front stops, line = front ++ (lastWord line ++ stops) ∧ ∀ c ∈ stops, isStop c = true := by
  obtain ⟨front, blanks, whole, blank⟩ := Text.getLastD_words line
  have word : lastWord line ++ ((Text.words line).getLastD []).rtakeWhile (· == ';') =
      (Text.words line).getLastD [] := List.rdropWhile_append_rtakeWhile
  refine ⟨front, ((Text.words line).getLastD []).rtakeWhile (· == ';') ++ blanks, ?_, ?_⟩
  · rw [← List.append_assoc (lastWord line), word]
    exact whole
  · intro c hc
    rcases List.mem_append.1 hc with semicolon | hc
    · simp [isStop, List.mem_rtakeWhile_imp semicolon]
    · simp [isStop, blank c hc]

/-- The line ends in a semicolon, a block end and the tail, which is made of blanks and semicolons;
only blanks stand before the block end. -/
inductive EndsBlock : Text → Text → Prop
  | intro {front gap close tail : Text} (blank : ∀ c ∈ gap, Text.isAsciiBlank c = true)
      (ends : close ∈ blockEnds) (stops : ∀ c ∈ tail, Text.isAsciiBlank c = true ∨ c = ';') :
      EndsBlock (front ++ ';' :: (gap ++ (close ++ tail))) tail

theorem rdropWhile_blockEnd {close : Text} (h : close ∈ blockEnds) :
    close ≠ [] ∧ close.rdropWhile isStop = close := by
  revert close
  decide

theorem isStop_of_isAsciiBlank_or {c : Char} (h : Text.isAsciiBlank c = true ∨ c = ';') :
    isStop c = true := by
  rcases h with blank | rfl
  · simp [isStop, Text.isBlank_of_isAsciiBlank c blank]
  · rfl

theorem suffix_of_endsBlock {line tail front word stops : Text} (h : EndsBlock line tail)
    (whole : line = front ++ (word ++ stops)) (given : word ≠ [])
    (ends : word.rdropWhile isStop = word) (hs : ∀ c ∈ stops, isStop c = true) :
    ∃ close ∈ blockEnds, word <:+ close ∨ close <:+ word := by
  obtain @⟨before, gap, close, tail, -, hc, ht⟩ := h
  obtain ⟨closeGiven, closeEnds⟩ := rdropWhile_blockEnd hc
  have seen := congrArg (List.rdropWhile isStop) whole
  have stop : ∀ c ∈ tail, isStop c = true := fun c h => isStop_of_isAsciiBlank_or (ht c h)
  rw [List.append_cons, ← List.append_assoc, Text.rdropWhile_append given ends hs,
    Text.rdropWhile_append closeGiven closeEnds stop] at seen
  refine ⟨close, hc, ?_⟩
  have one : word <:+ front ++ word := List.suffix_append front word
  have other : close <:+ front ++ word := by
    rw [← seen]
    exact List.suffix_append _ close
  exact List.suffix_or_suffix_of_suffix one other

theorem lastWord_not_opener {line tail : Text} (h : EndsBlock line tail) :
    lastWord line ∉ trailingOpeners := by
  intro opens
  have shape : ∀ word ∈ trailingOpeners, word ≠ [] ∧ word.rdropWhile isStop = word ∧
      ∀ close ∈ blockEnds, ¬(word <:+ close) ∧ ¬(close <:+ word) := by decide
  obtain ⟨given, ends, apart⟩ := shape _ opens
  obtain ⟨front, stops, whole, hs⟩ := stops_lastWord line
  obtain ⟨close, hc, suffix⟩ := suffix_of_endsBlock h whole given ends hs
  exact suffix.elim (apart close hc).1 (apart close hc).2

theorem last_not_brace {line tail : Text} (h : EndsBlock line tail) : line.getLast? ≠ some '{' := by
  intro last
  obtain ⟨front, whole⟩ := List.getLast?_eq_some_iff.1 last
  have apart : ∀ close ∈ blockEnds, ¬(['{'] <:+ close) ∧ ¬(close <:+ ['{']) := by decide
  have whole : line = front ++ (['{'] ++ []) := whole
  obtain ⟨close, hc, suffix⟩ := suffix_of_endsBlock h whole (by decide) (by decide) nofun
  exact suffix.elim (apart close hc).1 (apart close hc).2

theorem dropOne_rebuilds (c : Char) (t : Text) :
    ∃ one, t = one ++ dropOne c t ∧ ∀ d ∈ one, d = c := by
  cases t with
  | nil => exact ⟨[], rfl, nofun⟩
  | cons d t =>
    rw [dropOne]
    split
    · next same => exact ⟨[d], rfl, List.forall_mem_singleton.2 same.symm⟩
    · exact ⟨[], rfl, nofun⟩

theorem mem_of_mem_dropOne {c d : Char} {t : Text} (h : d ∈ dropOne c t) : d ∈ t := by
  obtain ⟨one, whole, -⟩ := dropOne_rebuilds c t
  rw [whole]
  exact List.mem_append_right one h

theorem dropOne_append {c : Char} {rest : Text} (h : rest.head? ≠ some c) (back : Text) :
    dropOne c (back ++ rest) = dropOne c back ++ rest := by
  cases back with
  | nil =>
    cases rest with
    | nil => rfl
    | cons d rest =>
      have other : c ≠ d := by simpa [eq_comm] using h
      exact if_neg other
  | cons d back =>
    rw [List.cons_append, dropOne, dropOne]
    split <;> rfl

theorem head?_dropWhile_stops {t : Text} (stops : ∀ c ∈ t, Text.isAsciiBlank c = true ∨ c = ';')
    (more : ¬∀ c ∈ t, Text.isAsciiBlank c = true) :
    (t.dropWhile Text.isAsciiBlank).head? = some ';' := by
  induction t with
  | nil => exact absurd nofun more
  | cons c t ih =>
    obtain ⟨here, others⟩ := List.forall_mem_cons.1 stops
    rcases here with blank | rfl
    · rw [List.dropWhile_cons_of_pos blank]
      exact ih others fun all => more (List.forall_mem_cons.2 ⟨blank, all⟩)
    · rfl

theorem dropWhile_append_of_kept {p : Char → Bool} {t : Text} (given : t ≠ [])
    (kept : t.dropWhile p = t) (rest : Text) : (t ++ rest).dropWhile p = t ++ rest := by
  rw [List.dropWhile_append, kept, if_neg]
  simpa using given

theorem reverse_blockEnd {close : Text} (h : close ∈ blockEnds) :
    close.reverse ≠ [] ∧ close.reverse.head? ≠ some ';' ∧
      close.reverse.dropWhile Text.isAsciiBlank = close.reverse := by
  revert close
  decide

theorem head?_ne_of_blockEnd {close back : Text} (h : close ∈ blockEnds)
    (read : close.reverse <+: back) : back.head? ≠ some ';' := by
  obtain ⟨given, last, -⟩ := reverse_blockEnd h
  obtain ⟨rest, rfl⟩ := read
  rwa [List.head?_append_of_ne_nil _ given]

theorem closesItself_eq_true_iff {line : Text} : closesItself line = true ↔
    ∃ close ∈ blockEnds,
      close.reverse <+: (dropOne ';' line.reverse).dropWhile Text.isAsciiBlank ∧
      (((dropOne ';' line.reverse).dropWhile Text.isAsciiBlank).drop close.length |>.dropWhile
        Text.isAsciiBlank).head? = some ';' := by
  simp only [closesItself, List.any_eq_true, Bool.and_eq_true, List.isPrefixOf_iff_prefix,
    beq_iff_eq]

theorem closesItself_of_endsBlock {line tail : Text} (h : EndsBlock line tail) :
    closesItself line = true ↔ ∀ c ∈ dropOne ';' tail.reverse, Text.isAsciiBlank c = true := by
  obtain @⟨front, gap, close, tail, blank, hc, ht⟩ := h
  obtain ⟨given, -, kept⟩ := reverse_blockEnd hc
  have reversed : (front ++ ';' :: (gap ++ (close ++ tail))).reverse =
      tail.reverse ++ (close.reverse ++ (gap.reverse ++ ';' :: front.reverse)) := by simp
  have head : (close.reverse ++ (gap.reverse ++ ';' :: front.reverse)).head? ≠ some ';' :=
    head?_ne_of_blockEnd hc (List.prefix_append _ _)
  rw [closesItself_eq_true_iff, reversed, dropOne_append head]
  constructor
  · rintro ⟨other, ho, read, -⟩
    by_contra more
    -- what is left of the tail starts with a semicolon, and no block end is read from there
    have stop := head?_dropWhile_stops
      (fun c hc => ht c (List.mem_reverse.1 (mem_of_mem_dropOne hc))) more
    have left : (dropOne ';' tail.reverse).dropWhile Text.isAsciiBlank ≠ [] := by
      intro none
      rw [none] at stop
      cases stop
    have visible := head?_ne_of_blockEnd ho read
    rw [List.dropWhile_append, if_neg (by simpa using left),
      List.head?_append_of_ne_nil _ left] at visible
    exact visible stop
  · intro stops
    refine ⟨close, hc, ?_⟩
    rw [List.dropWhile_append_of_pos stops, dropWhile_append_of_kept given kept]
    refine ⟨List.prefix_append _ _, ?_⟩
    rw [← List.length_reverse, List.drop_left, List.dropWhile_append_of_pos (by simpa using blank)]
    rfl

theorem endsBlock_of_closesItself {line : Text} (h : closesItself line = true) :
    ∃ tail, EndsBlock line tail := by
  obtain ⟨close, hc, ⟨rest, back⟩, opened⟩ := closesItself_eq_true_iff.1 h
  obtain ⟨one, whole, semicolon⟩ := dropOne_rebuilds ';' line.reverse
  rw [← back, ← List.length_reverse, List.drop_left] at opened
  obtain ⟨front, opened⟩ := List.head?_eq_some_iff.1 opened
  let blanks := (dropOne ';' line.reverse).takeWhile Text.isAsciiBlank
  let gap := rest.takeWhile Text.isAsciiBlank
  have reversed : line.reverse = one ++ (blanks ++ (close.reverse ++ (gap ++ ';' :: front))) := by
    rw [← opened, List.takeWhile_append_dropWhile, back, List.takeWhile_append_dropWhile, ← whole]
  have read : line =
      front.reverse ++ ';' :: (gap.reverse ++ (close ++ (blanks.reverse ++ one.reverse))) := by
    rw [← List.reverse_reverse line, reversed]
    simp
  refine ⟨blanks.reverse ++ one.reverse, ?_⟩
  rw [read]
  refine .intro ?_ hc ?_
  · exact fun c h => List.mem_takeWhile_imp (List.mem_reverse.1 h)
  · intro c h
    rcases List.mem_append.1 h with h | h
    · exact .inl (List.mem_takeWhile_imp (List.mem_reverse.1 h))
    · exact .inr (semicolon c (List.mem_reverse.1 h))

theorem lineShape_of_opener {line : Text} (opens : firstWord line ∈ leadingOpeners) :
    lineShape line = ⟨false, !closesItself line⟩ := by
  refine congrArg₂ LineShape.mk (dedentBefore_of_opener opens) ?_
  cases closes : closesItself line with
  | false => simp [opens]
  | true =>
    obtain ⟨tail, h⟩ := endsBlock_of_closesItself closes
    simp [lastWord_not_opener h, last_not_brace h]

theorem count_semicolon_le_one_iff {tail : Text}
    (stops : ∀ c ∈ tail, Text.isAsciiBlank c = true ∨ c = ';')
    (ends : ∀ c, tail.getLast? = some c → Text.isBlank c = false) :
    tail.count ';' ≤ 1 ↔ ∀ c ∈ dropOne ';' tail.reverse, Text.isAsciiBlank c = true := by
  rcases List.eq_nil_or_concat' tail with rfl | ⟨rest, c, rfl⟩
  · simp [dropOne]
  · have visible := ends c (by simp)
    have semicolon : c = ';' := by
      refine (stops c (by simp)).resolve_left fun blank => ?_
      rw [Text.isBlank_of_isAsciiBlank c blank] at visible
      cases visible
    subst semicolon
    have one : dropOne ';' (rest ++ [';']).reverse = rest.reverse := by simp [dropOne]
    have all : ';' ∉ rest ↔ ∀ c ∈ rest, Text.isAsciiBlank c = true := by
      constructor
      · exact fun free c hc => (stops c (by simp [hc])).resolve_right fun same => free (same ▸ hc)
      · exact fun blank mem => absurd (blank ';' mem) (by decide)
    rw [one, List.count_append, List.count_singleton_self]
    simpa [List.count_eq_zero] using all

/-- A line that closes the block its first word opens keeps the lines after it from stepping in if
at most one semicolon comes after the block end, and only then. -/
theorem closed_line_keeps_depth_iff {line tail : Text} (trimmed : Text.trim line = line)
    (opens : firstWord line ∈ leadingOpeners) (closes : EndsBlock line tail) :
    (lineShape line).indentAfter = false ↔ tail.count ';' ≤ 1 := by
  rw [lineShape_of_opener opens, Bool.not_eq_false', closesItself_of_endsBlock closes]
  have ends := Text.getLast?_trimEnd (Text.trimStart line)
  rw [← Text.trim, trimmed] at ends
  obtain @⟨front, gap, close, tail, -, -, stops⟩ := closes
  refine (count_semicolon_le_one_iff stops fun c last => ends c ?_).symm
  have given : tail ≠ [] := by
    rintro rfl
    cases last
  simp [List.getLast?_append, List.getLast?_cons, last]

theorem loop_on_one_line_keeps_depth :
    let line := "for f in *; do g; done \t;".toList
    Text.trim line = line ∧ firstWord line ∈ leadingOpeners ∧ EndsBlock line " \t;".toList ∧
      (lineShape line).indentAfter = false := by
  have closes : EndsBlock "for f in *; do g; done \t;".toList " \t;".toList :=
    @EndsBlock.intro "for f in *; do g".toList [' '] "done".toList " \t;".toList
      (by simp [Text.isAsciiBlank]) (by decide) (by simp [Text.isAsciiBlank])
  exact ⟨by decide, by decide, closes,
    (closed_line_keeps_depth_iff (by decide) (by decide) closes).2 (by decide)⟩

theorem arm_on_one_line_steps_in :
    let line := "if a; then b; fi;;".toList
    Text.trim line = line ∧ firstWord line ∈ leadingOpeners ∧ EndsBlock line ";;".toList ∧
      (lineShape line).indentAfter = true :=
  ⟨by decide, by decide,
    @EndsBlock.intro "if a; then b".toList [' '] "fi".toList ";;".toList
      (by simp [Text.isAsciiBlank]) (by decide) (by simp [Text.isAsciiBlank]),
    by decide⟩

end Layout
end ScriptDesk
