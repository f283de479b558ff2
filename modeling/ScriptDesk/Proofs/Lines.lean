import ScriptDesk.Text.Blank
import Mathlib.Data.List.TakeWhile

namespace ScriptDesk.Text

theorem splitOn_of_not_mem {sep : Char} {t : Text} (h : sep ∉ t) : splitOn sep t = [t] := by
  induction t with
  | nil => rfl
  | cons c t ih =>
    obtain ⟨hc, ht⟩ := List.ne_and_not_mem_of_not_mem_cons h
    rw [splitOn, if_neg (Ne.symm hc), ih ht]

theorem splitOn_append {sep : Char} {p : Text} (h : sep ∉ p) (t : Text) :
    splitOn sep (p ++ sep :: t) = p :: splitOn sep t := by
  induction p with
  | nil => simp [splitOn]
  | cons c p ih =>
    obtain ⟨hc, hp⟩ := List.ne_and_not_mem_of_not_mem_cons h
    rw [List.cons_append, splitOn, if_neg (Ne.symm hc), ih hp]

theorem joinWith_cons (sep : Char) (p : Text) {ps : List Text} (h : ps ≠ []) :
    joinWith sep (p :: ps) = p ++ sep :: joinWith sep ps := by
  cases ps with
  | nil => exact absurd rfl h
  | cons q ps => rfl

theorem splitOn_joinWith {sep : Char} {ps : List Text} (some : ps ≠ [])
    (h : ∀ p ∈ ps, sep ∉ p) : splitOn sep (joinWith sep ps) = ps := by
  induction ps with
  | nil => exact absurd rfl some
  | cons p ps ih =>
    obtain ⟨hp, hps⟩ := List.forall_mem_cons.1 h
    cases ps with
    | nil => exact splitOn_of_not_mem hp
    | cons q ps =>
      rw [joinWith_cons sep p (List.cons_ne_nil q ps), splitOn_append hp,
        ih (List.cons_ne_nil q ps) hps]

@[elab_as_elim]
theorem lineInduction {P : Text → Prop} (last : ∀ p, '\n' ∉ p → P p)
    (more : ∀ p t, '\n' ∉ p → P t → P (p ++ '\n' :: t)) (t : Text) : P t := by
  -- the characters read of the first line so far are carried along
  have from_ (t p : Text) (h : '\n' ∉ p) : P (p ++ t) := by
    induction t generalizing p with
    | nil => simpa using last p h
    | cons c t ih =>
      by_cases hc : c = '\n'
      · subst hc
        exact more p t h (ih [] List.not_mem_nil)
      · have longer : '\n' ∉ p ++ [c] := by simp [h, Ne.symm hc]
        simpa using ih (p ++ [c]) longer
  exact from_ t [] List.not_mem_nil

theorem not_mem_of_mem_pieces {t : Text} : ∀ p ∈ pieces t, '\n' ∉ p := by
  induction t using lineInduction with
  | last p h =>
    rw [pieces, splitOn_of_not_mem h]
    exact List.forall_mem_singleton.2 h
  | more p t h ih =>
    rw [pieces, splitOn_append h]
    exact List.forall_mem_cons.2 ⟨h, ih⟩

theorem pieces_of_not_mem {t : Text} (h : '\n' ∉ t) : pieces t = [t] := splitOn_of_not_mem h

theorem pieces_append (above below : Text) :
    pieces (above ++ '\n' :: below) = pieces above ++ pieces below := by
  induction above using lineInduction with
  | last p h => rw [pieces, splitOn_append h, pieces, splitOn_of_not_mem h]; rfl
  | more p t h ih =>
    have first (rest : Text) : pieces (p ++ '\n' :: rest) = p :: pieces rest :=
      splitOn_append h rest
    rw [List.append_assoc, List.cons_append, first, ih, first, List.cons_append]

theorem joined_concat {ps : List Text} (some : ps ≠ []) (p : Text) :
    joined (ps ++ [p]) = joined ps ++ '\n' :: p := by
  induction ps with
  | nil => exact absurd rfl some
  | cons q ps ih =>
    cases ps with
    | nil => rfl
    | cons r ps =>
      have here := ih (List.cons_ne_nil r ps)
      rw [joined, joined] at here
      rw [List.cons_append, joined, joinWith_cons '\n' q (by simp), here, joined,
        joinWith_cons '\n' q (List.cons_ne_nil r ps), List.append_assoc, List.cons_append]

theorem lastLine (t : Text) : '\n' ∉ t ∨ ∃ above last, t = above ++ '\n' :: last ∧ '\n' ∉ last := by
  induction t using lineInduction with
  | last p h => exact .inl h
  | more p t h ih =>
    rcases ih with one | ⟨above, last, rfl, free⟩
    · exact .inr ⟨p, t, rfl, one⟩
    · exact .inr ⟨p ++ '\n' :: above, last, by simp, free⟩

def terminated (ps : List Text) : Text := ps.flatMap (· ++ ['\n'])

theorem joined_concat_nil (ps : List Text) : joined (ps ++ [[]]) = terminated ps := by
  induction ps with
  | nil => rfl
  | cons p ps ih =>
    have some : ps ++ [[]] ≠ [] := by simp
    rw [joined] at ih
    rw [List.cons_append, joined, joinWith_cons '\n' p some, ih]
    simp [terminated]

theorem joined_eq_dropLast {ps : List Text} (some : ps ≠ []) :
    joined ps = (terminated ps).dropLast := by
  induction ps with
  | nil => exact absurd rfl some
  | cons p ps ih =>
    cases ps with
    | nil => simp [joined, joinWith, terminated]
    | cons q ps =>
      have more : terminated (q :: ps) ≠ [] := by simp [terminated]
      have here := ih (List.cons_ne_nil q ps)
      rw [joined] at here
      rw [joined, joinWith_cons '\n' p (List.cons_ne_nil q ps), here]
      have split : terminated (p :: q :: ps) = (p ++ ['\n']) ++ terminated (q :: ps) := by
        simp [terminated]
      rw [split, List.dropLast_append_of_ne_nil more]
      simp

theorem lines_of_not_mem {p : Text} (ne : p ≠ []) (h : '\n' ∉ p) : lines p = [p] := by
  induction p with
  | nil => exact absurd rfl ne
  | cons c p ih =>
    obtain ⟨hc, hp⟩ := List.ne_and_not_mem_of_not_mem_cons h
    rw [lines, if_neg (Ne.symm hc)]
    cases p with
    | nil => rfl
    | cons d p => rw [ih (List.cons_ne_nil d p) hp]

theorem lines_append {p : Text} (h : '\n' ∉ p) (t : Text) :
    lines (p ++ '\n' :: t) = (p ++ ['\n']) :: lines t := by
  induction p with
  | nil => simp [lines]
  | cons c p ih =>
    obtain ⟨hc, hp⟩ := List.ne_and_not_mem_of_not_mem_cons h
    rw [List.cons_append, lines, if_neg (Ne.symm hc), ih hp]
    rfl

theorem lines_ne_nil {t : Text} (h : t ≠ []) : lines t ≠ [] := by
  intro none
  have all := flatten_lines t
  rw [none] at all
  exact h all.symm

theorem bare_of_not_mem {p : Text} (h : '\n' ∉ p) : bare p = p := by
  have back : '\n' ∉ p.reverse := by simpa using h
  unfold bare
  split
  · simp_all
  · simp_all
  · exact List.reverse_reverse p

theorem bare_newline (p : Text) : ∃ b, (b = [] ∨ b = ['\r']) ∧ bare (p ++ ['\n']) ++ b = p := by
  rcases List.eq_nil_or_concat p with rfl | ⟨q, c, rfl⟩
  · exact ⟨[], .inl rfl, rfl⟩
  · by_cases hc : c = '\r'
    · subst hc
      exact ⟨['\r'], .inr rfl, by simp [bare]⟩
    · refine ⟨[], .inl rfl, ?_⟩
      simp [bare, hc]

theorem endsLine_of_not_mem {p : Text} (h : '\n' ∉ p) : p.endsLine = false := by
  rw [endsLine, beq_eq_false_iff_ne]
  exact fun last => h (List.mem_of_getLast? last)

theorem endsLine_append (p t : Text) : endsLine (p ++ '\n' :: t) = (t.isEmpty || endsLine t) := by
  cases t with
  | nil => simp [endsLine]
  | cons c t => simp [endsLine, List.getLast?_append, List.getLast?_cons]

theorem trimEnd_append {b : Text} (h : ∀ c ∈ b, isBlank c = true) (t : Text) :
    trimEnd (t ++ b) = trimEnd t := by
  rw [trimEnd, List.reverse_append, List.dropWhile_append_of_pos (by simpa using h), trimEnd]

theorem trim_append {b : Text} (h : ∀ c ∈ b, isBlank c = true) (t : Text) :
    trim (t ++ b) = trim t := by
  rw [trim, trimStart, List.dropWhile_append]
  split
  · next none =>
    have blank : b.dropWhile isBlank = [] := List.dropWhile_eq_nil_iff.2 h
    rw [trim, trimStart, List.isEmpty_iff.1 none, blank]
  · rw [trimEnd_append h, trim, trimStart]

theorem append_trim {b : Text} (h : ∀ c ∈ b, isBlank c = true) (t : Text) :
    trim (b ++ t) = trim t := by
  rw [trim, trimStart, List.dropWhile_append_of_pos h, trim, trimStart]

theorem head?_trimStart (t : Text) : ∀ c, (trimStart t).head? = some c → isBlank c = false := by
  intro c head
  have first := List.head?_dropWhile_not isBlank t
  rw [trimStart] at head
  rw [head] at first
  exact first

theorem trimStart_eq_self {t : Text} (h : ∀ c, t.head? = some c → isBlank c = false) :
    trimStart t = t := by
  cases t with
  | nil => rfl
  | cons c t => simp [trimStart, h c rfl]

theorem trimEnd_eq_self {t : Text} (h : ∀ c, t.getLast? = some c → isBlank c = false) :
    trimEnd t = t := by
  have back : trimStart t.reverse = t.reverse := by
    refine trimStart_eq_self fun c head => h c ?_
    rwa [List.head?_reverse] at head
  rw [trimStart] at back
  rw [trimEnd, back, List.reverse_reverse]

theorem getLast?_trimEnd (t : Text) : ∀ c, (trimEnd t).getLast? = some c → isBlank c = false := by
  intro c last
  rw [trimEnd, List.getLast?_reverse] at last
  exact head?_trimStart t.reverse c last

theorem trim_bare (p : Text) : trim (bare (p ++ ['\n'])) = trim p := by
  obtain ⟨b, hb, same⟩ := bare_newline p
  have blank : ∀ c ∈ b, isBlank c = true := by
    rcases hb with rfl | rfl
    · exact nofun
    · exact List.forall_mem_cons.2 ⟨rfl, nofun⟩
  rw [← trim_append blank, same]

theorem map_trim_pieces (t : Text) :
    (pieces t).map trim =
      (rows t).map trim ++ if t.isEmpty || t.endsLine then [[]] else [] := by
  induction t using lineInduction with
  | last p h =>
    rw [pieces, splitOn_of_not_mem h, endsLine_of_not_mem h, Bool.or_false]
    cases p with
    | nil => rfl
    | cons c p =>
      rw [rows, lines_of_not_mem (List.cons_ne_nil c p) h]
      simp [bare_of_not_mem h]
  | more p t h ih =>
    have some : (p ++ '\n' :: t).isEmpty = false := by cases p <;> rfl
    rw [pieces, splitOn_append h, rows, lines_append h, some, endsLine_append, Bool.false_or]
    rw [pieces, rows] at ih
    simp only [List.map_cons, ih, trim_bare, List.cons_append]

theorem trim_rebuilds (t : Text) :
    ∃ a b, (∀ c ∈ a, isBlank c = true) ∧ (∀ c ∈ b, isBlank c = true) ∧ a ++ trim t ++ b = t := by
  refine ⟨t.takeWhile isBlank, ((trimStart t).reverse.takeWhile isBlank).reverse, ?_, ?_, ?_⟩
  · exact fun c => List.mem_takeWhile_imp
  · exact fun c hc => List.mem_takeWhile_imp (List.mem_reverse.1 hc)
  · rw [trim, trimEnd, List.append_assoc, ← List.reverse_append, List.takeWhile_append_dropWhile,
      List.reverse_reverse, trimStart, List.takeWhile_append_dropWhile]

@[simp] theorem trim_trim (t : Text) : trim (trim t) = trim t := by
  obtain ⟨a, b, ha, hb, same⟩ := trim_rebuilds t
  calc
    trim (trim t) = trim (a ++ trim t ++ b) := by rw [trim_append hb, append_trim ha]
    _ = trim t := by rw [same]

theorem trim_eq_nil_iff {t : Text} : trim t = [] ↔ ∀ c ∈ t, isBlank c = true := by
  constructor
  · intro none
    obtain ⟨a, b, ha, hb, same⟩ := trim_rebuilds t
    rw [none, List.append_nil] at same
    rw [← same]
    exact fun c hc => (List.mem_append.1 hc).elim (ha c) (hb c)
  · intro blank
    exact trim_append blank []

theorem mem_of_mem_trim {t : Text} {c : Char} (h : c ∈ trim t) : c ∈ t := by
  obtain ⟨a, b, -, -, same⟩ := trim_rebuilds t
  rw [← same]
  exact List.mem_append_left b (List.mem_append_right a h)

theorem isDigit_of_mem_ofNat {n : Nat} {c : Char} (h : c ∈ ofNat n) : c.isDigit = true :=
  Nat.isDigit_of_mem_toDigits (by omega) (by omega) h

end ScriptDesk.Text
