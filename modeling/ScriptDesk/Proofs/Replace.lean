import Mathlib.Data.List.Infix
import ScriptDesk.Text.Edit
import ScriptDesk.Text.Replace

/-! Replacement of every occurrence.  A text is cut at the occurrences that a search from the left
meets, and the gaps between them are joined by what is written in their place.  Where the cuts are
depends on the text and the search alone, not on what is written. -/

namespace ScriptDesk.Text

structure First (search t gap rest : Text) : Prop where
  split : t = gap ++ search ++ rest
  leftmost : ∀ u v, t = u ++ search ++ v → gap.length ≤ u.length

/-- The gaps of a text cut from the left at occurrences that do not overlap. -/
inductive Cut (search : Text) : Text → List Text → Prop
  | whole {t : Text} (absent : ¬ search <:+: t) : Cut search t [t]
  | more {t gap rest : Text} {gaps : List Text} (first : First search t gap rest)
      (cut : Cut search rest gaps) : Cut search t (gap :: gaps)

variable {search t gap rest : Text} {gaps : List Text}

theorem First.occurs (h : First search t gap rest) : search <:+: t := ⟨gap, rest, h.split.symm⟩

theorem First.at_start (search rest : Text) : First search (search ++ rest) [] rest :=
  ⟨rfl, fun _ _ _ => Nat.zero_le _⟩

theorem First.cons {c : Char} (h : First search t gap rest) (later : ¬ search <+: c :: t) :
    First search (c :: t) (c :: gap) rest := by
  refine ⟨congrArg (c :: ·) h.split, fun u v split => ?_⟩
  cases u with
  | nil => exact absurd ⟨v, split.symm⟩ later
  | cons d u => exact Nat.succ_le_succ (h.leftmost u v (List.cons.inj split).2)

theorem First.tail {c : Char} (h : First search t (c :: gap) rest) :
    ∃ t', t = c :: t' ∧ ¬ search <+: t ∧ First search t' gap rest := by
  obtain rfl := h.split
  refine ⟨gap ++ search ++ rest, rfl, ?_, rfl, fun u v split => ?_⟩
  · rintro ⟨v, here⟩
    exact absurd (h.leftmost [] v here.symm) (Nat.not_succ_le_zero _)
  · exact Nat.le_of_succ_le_succ (h.leftmost (c :: u) v (congrArg (c :: ·) split))

theorem exists_first (h : search <:+: t) : ∃ gap rest, First search t gap rest := by
  induction t with
  | nil =>
    obtain rfl := List.infix_nil.1 h
    exact ⟨[], [], .at_start [] []⟩
  | cons c t ih =>
    by_cases here : search <+: c :: t
    · obtain ⟨rest, split⟩ := here
      exact ⟨[], rest, split ▸ .at_start search rest⟩
    · obtain ⟨gap, rest, first⟩ := ih ((List.infix_cons_iff.1 h).resolve_left here)
      exact ⟨c :: gap, rest, first.cons here⟩

theorem First.unique {gap' rest' : Text} (h : First search t gap rest)
    (h' : First search t gap' rest') : gap = gap' ∧ rest = rest' := by
  have length : gap.length = gap'.length :=
    Nat.le_antisymm (h.leftmost _ _ h'.split) (h'.leftmost _ _ h.split)
  have same := h.split.symm.trans h'.split
  simp only [List.append_assoc] at same
  obtain ⟨gaps, rests⟩ := List.append_inj same length
  exact ⟨gaps, List.append_cancel_left rests⟩

theorem Cut.ne_nil (h : Cut search t gaps) : gaps ≠ [] := by
  cases h <;> exact List.cons_ne_nil _ _

theorem exists_cut (searches : search ≠ []) (t : Text) : ∃ gaps, Cut search t gaps := by
  -- on the length: what follows an occurrence is shorter, but no tail that `t` is built from
  induction size : t.length using Nat.strong_induction_on generalizing t with
  | _ n ih =>
    by_cases occurs : search <:+: t
    · obtain ⟨gap, rest, first⟩ := exists_first occurs
      have shorter : rest.length < n := by
        have := List.length_pos_iff.2 searches
        have := congrArg List.length first.split
        simp only [List.length_append] at this
        omega
      obtain ⟨gaps, cut⟩ := ih _ shorter rest rfl
      exact ⟨gap :: gaps, .more first cut⟩
    · exact ⟨[t], .whole occurs⟩

theorem Cut.unique {gaps' : List Text} (h : Cut search t gaps) (h' : Cut search t gaps') :
    gaps' = gaps := by
  induction h generalizing gaps' with
  | whole absent =>
    cases h' with
    | whole => rfl
    | more first => exact absurd first.occurs absent
  | more first _ ih =>
    cases h' with
    | whole absent => exact absurd first.occurs absent
    | more first' cut' =>
      obtain ⟨rfl, rfl⟩ := first.unique first'
      rw [ih cut']

theorem Cut.joined (h : Cut search t gaps) : search.intercalate gaps = t := by
  induction h with
  | whole => exact List.intercalate_singleton
  | more first cut ih => rw [List.intercalate_cons_of_ne_nil cut.ne_nil, ih, ← first.split]

theorem Cut.last (h : Cut search t gaps) : ∀ gap ∈ gaps.getLast?, ¬ search <:+: gap := by
  induction h with
  | whole absent => simpa using absent
  | more _ cut ih => rwa [List.getLast?_cons_of_ne_nil cut.ne_nil]

theorem Cut.length_eq_one_iff (h : Cut search t gaps) : gaps.length = 1 ↔ ¬ search <:+: t := by
  cases h with
  | whole absent => exact iff_of_true rfl absent
  | more first cut =>
    refine iff_of_false ?_ (not_not.2 first.occurs)
    simpa using cut.ne_nil

theorem byteSize_intercalate (s s' : Text) (gaps : List Text) :
    byteSize (s.intercalate gaps) + (gaps.length - 1) * byteSize s' =
      byteSize (s'.intercalate gaps) + (gaps.length - 1) * byteSize s := by
  induction gaps with
  | nil => simp
  | cons gap gaps ih =>
    cases gaps with
    | nil => simp
    | cons g gaps =>
      simp only [List.intercalate_cons_cons, byteSize_append, List.length_cons, Nat.add_sub_cancel,
        Nat.succ_mul] at ih ⊢
      omega

theorem replaceFrom_append (search new s t : Text) :
    replaceFrom search new s.length (s ++ t) = replaceFrom search new 0 t := by
  induction s with
  | nil => rfl
  | cons c s ih => exact ih

theorem replaceFrom_of_absent (new : Text) (absent : ¬ search <:+: t) :
    replaceFrom search new 0 t = (t, 0) := by
  induction t with
  | nil => rfl
  | cons c t ih =>
    rw [List.infix_cons_iff, not_or, ← List.isPrefixOf_iff_prefix] at absent
    rw [replaceFrom, if_neg absent.1, ih absent.2]

theorem replaceFrom_of_first (new : Text) (searches : search ≠ [])
    (first : First search t gap rest) :
    replaceFrom search new 0 t =
      (gap ++ new ++ (replaceFrom search new 0 rest).1,
        (replaceFrom search new 0 rest).2 + 1) := by
  induction gap generalizing t with
  | nil =>
    obtain ⟨c, s, rfl⟩ := List.exists_cons_of_ne_nil searches
    obtain rfl := first.split
    have here : (c :: s).isPrefixOf (c :: (s ++ rest)) = true :=
      List.isPrefixOf_iff_prefix.2 (List.prefix_append (c :: s) rest)
    change replaceFrom (c :: s) new 0 (c :: (s ++ rest)) = _
    rw [replaceFrom, if_pos here, List.length_cons, Nat.add_sub_cancel, replaceFrom_append]
    rfl
  | cons c gap ih =>
    obtain ⟨t, rfl, later, first⟩ := first.tail
    rw [← List.isPrefixOf_iff_prefix] at later
    rw [replaceFrom, if_neg later, ih first]
    rfl

theorem Cut.replaceFrom_eq (h : Cut search t gaps) (searches : search ≠ []) (new : Text) :
    replaceFrom search new 0 t = (new.intercalate gaps, gaps.length - 1) := by
  induction h with
  | whole absent => rw [replaceFrom_of_absent new absent, List.intercalate_singleton]; rfl
  | more first cut ih =>
    have := List.length_pos_iff.2 cut.ne_nil
    rw [replaceFrom_of_first new searches first, ih,
      List.intercalate_cons_of_ne_nil cut.ne_nil, List.length_cons]
    congr 1
    omega

theorem occurrence_of_first (first : First search t gap rest) :
    occurrence search t = some (byteSize gap) := by
  induction gap generalizing t with
  | nil =>
    obtain rfl := first.split
    rw [List.nil_append]
    cases whole : search ++ rest with
    | nil =>
      obtain rfl := (List.append_eq_nil_iff.1 whole).1
      rfl
    | cons c t =>
      have here : search.isPrefixOf (c :: t) = true :=
        List.isPrefixOf_iff_prefix.2 ⟨rest, whole⟩
      rw [occurrence, if_pos here]
      rfl
  | cons c gap ih =>
    obtain ⟨t, rfl, later, first⟩ := first.tail
    rw [← List.isPrefixOf_iff_prefix] at later
    rw [occurrence, if_neg later, ih first]
    rfl

theorem occurrence_of_absent (absent : ¬ search <:+: t) : occurrence search t = none := by
  induction t with
  | nil =>
    rw [List.infix_nil] at absent
    simp [occurrence, absent]
  | cons c t ih =>
    rw [List.infix_cons_iff, not_or, ← List.isPrefixOf_iff_prefix] at absent
    rw [occurrence, if_neg absent.1, ih absent.2]
    rfl

theorem find_of_first (searches : search ≠ []) (first : First search t gap rest)
    (finished : Text) :
    find (finished ++ t) search (byteSize finished) = .at (byteSize (finished ++ gap)) := by
  have occurs : t ≠ [] := by
    rintro rfl
    exact searches (List.infix_nil.1 first.occurs)
  have := byteSize_pos occurs
  have inside : ¬ (search.isEmpty || decide (byteSize (finished ++ t) ≤ byteSize finished)) := by
    simp [searches]
    omega
  rw [find, if_neg inside, splitAtByte_append]
  simp only [occurrence_of_first first, byteSize_append]

theorem find_of_absent (absent : ¬ search <:+: t) (finished : Text) :
    find (finished ++ t) search (byteSize finished) = .absent := by
  unfold find
  split
  · rfl
  · rw [splitAtByte_append]
    simp only [occurrence_of_absent absent]

theorem overwrite_append (before old new after : Text) :
    overwrite (before ++ old ++ after) (byteSize before) (byteSize before + byteSize old) new =
      some (before ++ new ++ after) := by
  have left : splitAtByte (byteSize before) (before ++ old ++ after) =
      some (before, old ++ after) := by
    rw [List.append_assoc, splitAtByte_append]
  have right : splitAtByte (byteSize before + byteSize old) (before ++ old ++ after) =
      some (before ++ old, after) := by
    rw [← byteSize_append, splitAtByte_append]
  rw [overwrite, left, right]

theorem replaceOnward_of_absent (absent : ¬ search <:+: t) (new finished : Text) (count : Nat) :
    replaceOnward search new (finished ++ t) (byteSize finished) count =
      some (finished ++ t, count) := by
  have found := find_of_absent absent finished
  rw [replaceOnward]
  split
  · rfl
  · next off => cases found.symm.trans off
  · next there => cases found.symm.trans there

theorem replaceOnward_of_first (searches : search ≠ []) (first : First search t gap rest)
    (new finished : Text) (count : Nat) :
    replaceOnward search new (finished ++ t) (byteSize finished) count =
      replaceOnward search new (finished ++ gap ++ new ++ rest)
        (byteSize (finished ++ gap ++ new)) (count + 1) := by
  have found := find_of_first searches first finished
  have overwritten : overwrite (finished ++ t) (byteSize (finished ++ gap))
      (byteSize (finished ++ gap) + byteSize search) new =
        some (finished ++ gap ++ new ++ rest) := by
    rw [← overwrite_append (finished ++ gap) search new rest, first.split]
    simp only [List.append_assoc]
  rw [replaceOnward]
  split
  · next absent => cases found.symm.trans absent
  · next off => cases found.symm.trans off
  · next n there =>
    cases found.symm.trans there
    split
    · next inside => cases overwritten.symm.trans inside
    · next t' written =>
      cases overwritten.symm.trans written
      exact congrArg (replaceOnward search new _ · (count + 1)) (byteSize_append _ new).symm

theorem Cut.replaceOnward_eq (h : Cut search t gaps) (searches : search ≠ [])
    (new finished : Text) (count : Nat) :
    replaceOnward search new (finished ++ t) (byteSize finished) count =
      some (finished ++ new.intercalate gaps, count + (gaps.length - 1)) := by
  -- each occurrence adds its gap and what is written to the finished part
  induction h generalizing finished count with
  | whole absent =>
    rw [replaceOnward_of_absent absent, List.intercalate_singleton]
    rfl
  | more first cut ih =>
    have := List.length_pos_iff.2 cut.ne_nil
    rw [replaceOnward_of_first searches first, ih, List.intercalate_cons_of_ne_nil cut.ne_nil,
      List.length_cons]
    simp only [List.append_assoc]
    congr 2
    omega

/-- Replacement goes from the left over the text as it was given.  The loop that replaces in place
ends, stays between characters and does the same. -/
theorem replaceAll_left_to_right (t search : Text) :
    (∀ new, replaceInPlace t search new = some (replaceAll t search new)) ∧
    (search = [] → ∀ new, replaceAll t search new = (t, 0)) ∧
    (search ≠ [] → ∃ gaps, Cut search t gaps ∧ (∀ other, Cut search t other → other = gaps) ∧
      search.intercalate gaps = t ∧ (∀ gap ∈ gaps.getLast?, ¬ search <:+: gap) ∧
      ∀ new, ∃ r k, replaceAll t search new = (r, k) ∧ gaps.length = k + 1 ∧
        r = new.intercalate gaps ∧
        byteSize r + k * byteSize search = byteSize t + k * byteSize new ∧
        (k = 0 ↔ ¬ search <:+: t)) := by
  have nothing (none : search = []) (new : Text) : replaceAll t search new = (t, 0) :=
    if_pos (List.isEmpty_iff.2 none)
  have something (searches : search ≠ []) (new : Text) :
      replaceAll t search new = replaceFrom search new 0 t :=
    if_neg (mt List.isEmpty_iff.1 searches)
  refine ⟨fun new => ?_, nothing, fun searches => ?_⟩
  · by_cases none : search = []
    · rw [nothing none, replaceInPlace, if_pos (List.isEmpty_iff.2 none)]
    · obtain ⟨gaps, cut⟩ := exists_cut none t
      rw [something none, replaceInPlace, if_neg (mt List.isEmpty_iff.1 none),
        cut.replaceFrom_eq none new]
      exact (cut.replaceOnward_eq none new [] 0).trans (by simp)
  · obtain ⟨gaps, cut⟩ := exists_cut searches t
    obtain ⟨k, count⟩ : ∃ k, gaps.length = k + 1 :=
      Nat.exists_eq_succ_of_ne_zero (mt List.length_eq_zero_iff.1 cut.ne_nil)
    have pred : gaps.length - 1 = k := by omega
    refine ⟨gaps, cut, fun _ => cut.unique, cut.joined, cut.last, fun new =>
      ⟨_, k, ?_, count, rfl, ?_, ?_⟩⟩
    · rw [something searches, cut.replaceFrom_eq searches new, pred]
    · rw [← pred, byteSize_intercalate, cut.joined]
    · rw [← cut.length_eq_one_iff, count]
      omega

theorem replacement_not_searched_again :
    ['é', 'a'] ≠ ([] : Text) ∧
    replaceInPlace ['é', 'é', 'a', 'é', 'a'] ['é', 'a'] ['a'] = some (['é', 'a', 'a'], 2) ∧
    ∃ gaps, Cut ['é', 'a'] ['é', 'é', 'a', 'é', 'a'] gaps ∧ gaps.length = 3 ∧
      List.intercalate ['a'] gaps = ['é', 'a', 'a'] := by
  have replaced : replaceAll ['é', 'é', 'a', 'é', 'a'] ['é', 'a'] ['a'] = (['é', 'a', 'a'], 2) := by
    decide
  obtain ⟨loop, -, cuts⟩ := replaceAll_left_to_right ['é', 'é', 'a', 'é', 'a'] ['é', 'a']
  obtain ⟨gaps, cut, -, -, -, writes⟩ := cuts (by decide)
  obtain ⟨r, k, result, count, written, -⟩ := writes ['a']
  cases replaced.symm.trans result
  exact ⟨by decide, (loop _).trans (congrArg some replaced), gaps, cut, count, written.symm⟩

end ScriptDesk.Text
