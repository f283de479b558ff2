import ScriptDesk.Proofs.Spelling

/-! The grammar of JSON text.  A text is written as a value if the grammar derives it: any white
space between the tokens, any escapes in strings, containers nested to any depth.  The reader reads
every such text as the value it is written as. -/

namespace ScriptDesk.Json

def Digits (t : Text) : Prop := t ≠ [] ∧ ∀ c ∈ t, c.isDigit = true

instance (t : Text) : Decidable (Digits t) :=
  decidable_of_iff (t ≠ [] ∧ t.all Char.isDigit = true) (and_congr_right' List.all_eq_true)

inductive Whole : Text → Prop
  | zero : Whole ['0']
  | digits {c : Char} {t : Text} (lead : c ≠ '0') (digits : Digits (c :: t)) : Whole (c :: t)

inductive Fraction : Text → Prop
  | none : Fraction []
  | point {t : Text} (digits : Digits t) : Fraction ('.' :: t)

inductive Exponent : Text → Prop
  | none : Exponent []
  | power {e : Char} {sign t : Text} (mark : e = 'e' ∨ e = 'E')
      (signed : sign = [] ∨ sign = ['+'] ∨ sign = ['-']) (digits : Digits t) :
      Exponent (e :: sign ++ t)

inductive Number : Text → Prop
  | parts {sign whole fraction exponent : Text} (signed : sign = [] ∨ sign = ['-'])
      (isWhole : Whole whole) (isFraction : Fraction fraction) (isExponent : Exponent exponent) :
      Number (sign ++ whole ++ fraction ++ exponent)

inductive Mark
  | char (c : Char)
  | unit (n : Nat)

inductive WrittenMark : Text → Mark → Prop
  | plain {c : Char} (quote : c ≠ '"') (backslash : c ≠ '\\') (control : 0x20 ≤ c.toNat) :
      WrittenMark [c] (.char c)
  | letter {l c : Char} (means : unescape l = some c) : WrittenMark ['\\', l] (.char c)
  | unit {a b c d : Char} {i j k l : Nat} (first : hexValue a = some i)
      (second : hexValue b = some j) (third : hexValue c = some k) (fourth : hexValue d = some l) :
      WrittenMark ['\\', 'u', a, b, c, d] (.unit (((i * 16 + j) * 16 + k) * 16 + l))

def IsHigh (n : Nat) : Prop := 0xD800 ≤ n ∧ n < 0xDC00

def IsLow (n : Nat) : Prop := 0xDC00 ≤ n ∧ n < 0xE000

instance (n : Nat) : Decidable (IsHigh n) := inferInstanceAs (Decidable (_ ∧ _))

instance (n : Nat) : Decidable (IsLow n) := inferInstanceAs (Decidable (_ ∧ _))

def paired (high low : Nat) : Char :=
  Char.ofNat (0x10000 + (high - 0xD800) * 0x400 + (low - 0xDC00))

/-- The text that marks stand for; none if a half of a pair stands alone. -/
def content : List Mark → Option Text
  | [] => some []
  | .char c :: ms => (content ms).map (c :: ·)
  | .unit n :: ms =>
    if IsHigh n then
      match ms with
      | .unit m :: ms => if IsLow m then (content ms).map (paired n m :: ·) else none
      | _ => none
    else if IsLow n then none
    else (content ms).map (Char.ofNat n :: ·)

inductive WrittenString : Text → Option Text → Prop
  | marks (ms : List (Text × Mark)) (each : ∀ m ∈ ms, WrittenMark m.1 m.2) :
      WrittenString ('"' :: ms.flatMap (·.1) ++ ['"']) (content (ms.map (·.2)))

structure Member where
  name : Text
  key : Option Text
  text : Text
  value : Read

def Member.spelling (m : Member) : Text := m.name ++ ':' :: m.text

inductive WrittenKey : Text → Option Text → Prop
  | pad {a t b : Text} {key : Option Text} (above : White a) (string : WrittenString t key)
      (below : White b) : WrittenKey (a ++ t ++ b) key

inductive Written : Text → Read → Prop
  | null : Written "null".toList .null
  | bool (b : Bool) : Written (printBool b) (.bool b)
  | number {literal : Text} (number : Number literal) : Written literal (.number literal)
  | string {t : Text} {s : Option Text} (string : WrittenString t s) : Written t (.string s)
  | array {blank : Text} (white : White blank) (items : List (Text × Read))
      (each : ∀ x ∈ items, Written x.1 x.2) :
      Written ('[' :: blank ++ Text.joinWith ',' (items.map (·.1)) ++ [']'])
        (.array (items.map (·.2)))
  | object {blank : Text} (white : White blank) (members : List Member)
      (keys : ∀ m ∈ members, WrittenKey m.name m.key)
      (each : ∀ m ∈ members, Written m.text m.value) :
      Written ('\x7b' :: blank ++ Text.joinWith ',' (members.map (·.spelling)) ++ ['\x7d'])
        (.object (members.map fun m => (m.key, m.value)))
  | pad {a t b : Text} {v : Read} (above : White a) (value : Written t v) (below : White b) :
      Written (a ++ t ++ b) v

theorem startsDigit_of_digits {t : Text} (h : Digits t) (rest : Text) :
    startsDigit (t ++ rest) = true := by
  obtain ⟨some, digits⟩ := h
  cases t with
  | nil => exact absurd rfl some
  | cons c t => exact digits c List.mem_cons_self

def Undigited (t : Text) : Prop := ∀ c ∈ t.head?, c.isDigit = false

theorem dropWhile_digits {t rest : Text} (digits : ∀ c ∈ t, c.isDigit = true)
    (stop : Undigited rest) : (t ++ rest).dropWhile Char.isDigit = rest := by
  rw [List.dropWhile_append_of_pos digits]
  cases rest with
  | nil => rfl
  | cons c rest => rw [List.dropWhile_cons_of_neg (by simp [stop c rfl])]

theorem Exponent.undigited {t : Text} (h : Exponent t) : Undigited t := by
  cases h with
  | none => exact nofun
  | power mark signed digits =>
    rintro c ⟨rfl⟩
    rcases mark with rfl | rfl <;> rfl

theorem Exponent.isExponent {t : Text} (h : Exponent t) : isExponent t = true := by
  cases h with
  | none => rfl
  | @power e sign t mark signed digits =>
    have marked : (e == 'e' || e == 'E') = true := by simpa using mark
    have starts := startsDigit_of_digits digits []
    have all : t.all Char.isDigit = true := List.all_eq_true.2 digits.2
    rw [List.append_nil] at starts
    rcases signed with rfl | rfl | rfl
    · obtain ⟨c, t, rfl⟩ := List.exists_cons_of_ne_nil digits.1
      have digit : c.isDigit = true := digits.2 c List.mem_cons_self
      have plus : c ≠ '+' := by
        rintro rfl
        cases digit
      have minus : c ≠ '-' := by
        rintro rfl
        cases digit
      simp [Json.isExponent, marked, starts, all, plus, minus]
    · simp [Json.isExponent, marked, starts, all]
    · simp [Json.isExponent, marked, starts, all]

theorem Fraction.undigited {t e : Text} (h : Fraction t) (he : Exponent e) :
    Undigited (t ++ e) := by
  cases h with
  | none => exact he.undigited
  | point digits =>
    rintro c ⟨rfl⟩
    rfl

theorem isFraction_append {t e : Text} (h : Fraction t) (he : Exponent e) :
    isFraction (t ++ e) = true := by
  cases h with
  | none =>
    cases he with
    | none => rfl
    | power mark signed digits =>
      have exponent := (Exponent.power mark signed digits).isExponent
      rcases mark with rfl | rfl
      · simpa [isFraction] using exponent
      · simpa [isFraction] using exponent
  | point digits =>
    simp only [List.cons_append, isFraction, startsDigit_of_digits digits, Bool.true_and]
    rw [dropWhile_digits digits.2 he.undigited]
    exact he.isExponent

theorem isMagnitude_append {w f e : Text} (hw : Whole w) (hf : Fraction f) (he : Exponent e) :
    isMagnitude (w ++ f ++ e) = true := by
  have fraction := isFraction_append hf he
  cases hw with
  | zero => simpa [isMagnitude] using fraction
  | @digits c t lead digits =>
    obtain ⟨digit, others⟩ := List.forall_mem_cons.1 digits.2
    have rest : (t ++ (f ++ e)).dropWhile Char.isDigit = f ++ e :=
      dropWhile_digits others (hf.undigited he)
    simp [isMagnitude, digit, rest, fraction]

theorem Number.isNumber {t : Text} (h : Number t) : isNumber t = true := by
  cases h with
  | @parts sign whole fraction exponent signed isWhole isFraction isExponent =>
    have magnitude := isMagnitude_append isWhole isFraction isExponent
    rcases signed with rfl | rfl
    · obtain ⟨c, t, split, digit, -⟩ := isMagnitude_cons magnitude
      rw [split] at magnitude
      have noSign : c ≠ '-' := by
        rintro rfl
        cases digit
      rw [List.nil_append, split]
      simpa [Json.isNumber, noSign] using magnitude
    · simpa [Json.isNumber] using magnitude

def Partial.mark (p : Partial) : Mark → Partial
  | .char c => p.push c
  | .unit n => p.pushUnit n

theorem leads_mark {t : Text} {m : Mark} (h : WrittenMark t m) (p : Partial) :
    Leads (.text p) t [] (.text (p.mark m)) := by
  cases h with
  | plain quote backslash control =>
    refine .of_feed ?_
    simp [State.feed, quote, backslash, Nat.not_lt.2 control, Partial.mark]
  | letter means => exact leads_letter p means
  | @unit a b c d i j k l first second third fourth =>
    have escapes : State.feed '\\' (.text p) = some ([], .escape p) := rfl
    have counts : State.feed 'u' (.escape p) = some ([], .hex p 4 0) := rfl
    have one : State.feed a (.hex p 4 0) = some ([], .hex p 3 i) := by simp [State.feed, first]
    have two : State.feed b (.hex p 3 i) = some ([], .hex p 2 (i * 16 + j)) := by
      simp [State.feed, second]
    have three : State.feed c (.hex p 2 (i * 16 + j)) =
        some ([], .hex p 1 ((i * 16 + j) * 16 + k)) := by
      simp [State.feed, third]
    have four : State.feed d (.hex p 1 ((i * 16 + j) * 16 + k)) =
        some ([], .text (p.mark (.unit (((i * 16 + j) * 16 + k) * 16 + l)))) := by
      simp [State.feed, fourth, Partial.mark]
    exact .cons escapes (.cons counts (.cons one (.cons two (.cons three (.of_feed four)))))

theorem mark_unit (p : Partial) (n : Nat) : p.mark (.unit n) =
    if IsHigh n then ⟨p.chars, some n, p.sound && p.half.isNone⟩
    else if IsLow n then
      match p.half with
      | some high => ⟨paired high n :: p.chars, none, p.sound⟩
      | none => ⟨p.chars, none, false⟩
    else p.push (Char.ofNat n) := rfl

theorem not_isHigh_of_isLow {n : Nat} (h : IsLow n) : ¬ IsHigh n := fun high =>
  absurd high.2 (Nat.not_lt.2 h.1)

theorem content_unit {n : Nat} (notHigh : ¬ IsHigh n) (ms : List Mark) :
    content (.unit n :: ms) = if IsLow n then none else (content ms).map (Char.ofNat n :: ·) := by
  rw [content.eq_def]
  simp [notHigh]

theorem content_of_unsound (ms : List Mark) {p : Partial} (unsound : p.sound = false) :
    (ms.foldl Partial.mark p).content = none := by
  induction ms generalizing p with
  | nil => simp [Partial.content, unsound]
  | cons m ms ih =>
    refine ih ?_
    cases m with
    | char c => simp [Partial.mark, Partial.push, unsound]
    | unit n =>
      rw [mark_unit]
      split
      · simp [unsound]
      · split
        · split
          · exact unsound
          · rfl
        · simp [Partial.push, unsound]

def Partial.pending (p : Partial) : List Mark := (p.half.map Mark.unit).toList

/-- The content is that of the half still alone and the marks to come, behind what has been read. -/
theorem content_foldl (ms : List Mark) {p : Partial} (sound : p.sound = true)
    (high : ∀ h ∈ p.half, IsHigh h) :
    (ms.foldl Partial.mark p).content =
      (content (p.pending ++ ms)).map (p.chars.reverse ++ ·) := by
  obtain ⟨chars, half, s⟩ := p
  cases sound
  induction ms generalizing chars half with
  | nil =>
    cases half with
    | none => simp [Partial.content, Partial.pending, content]
    | some h => simp [Partial.content, Partial.pending, content, high h rfl]
  | cons m ms ih =>
    have whole := fun chars => ih chars none (by simp)
    simp only [Partial.pending, Option.map_none, Option.toList_none, List.nil_append] at whole
    cases half with
    | none =>
      cases m with
      | char c =>
        simp [Partial.mark, Partial.push, whole, Partial.pending, content, Function.comp_def]
      | unit n =>
        rw [List.foldl_cons, mark_unit]
        by_cases isHigh : IsHigh n
        · have opens := ih chars (some n) (by rintro h ⟨rfl⟩; exact isHigh)
          rw [if_pos isHigh]
          exact opens
        · by_cases isLow : IsLow n
          · rw [if_neg isHigh, if_pos isLow, content_of_unsound ms rfl]
            simp [Partial.pending, content_unit isHigh, isLow]
          · rw [if_neg isHigh, if_neg isLow]
            simp [Partial.push, whole, Partial.pending, content_unit isHigh, isLow,
              Function.comp_def]
    | some h =>
      have isHigh : IsHigh h := high h rfl
      cases m with
      | char c =>
        rw [List.foldl_cons, content_of_unsound ms (by simp [Partial.mark, Partial.push])]
        simp [Partial.pending, content, isHigh]
      | unit n =>
        rw [List.foldl_cons, mark_unit]
        by_cases isLow : IsLow n
        · rw [if_neg (not_isHigh_of_isLow isLow), if_pos isLow]
          simp [whole, Partial.pending, content, isHigh, isLow, Function.comp_def]
        · have unpaired : content (.unit h :: .unit n :: ms) = none := by
            simp [content, isHigh, isLow]
          have shown : (Partial.mk chars (some h) true).pending ++ Mark.unit n :: ms =
              .unit h :: .unit n :: ms := rfl
          rw [if_neg isLow, shown, unpaired, Option.map_none]
          split
          · exact content_of_unsound ms rfl
          · exact content_of_unsound ms (by simp [Partial.push])

theorem leads_string {t : Text} {s : Option Text} (h : WrittenString t s) :
    Leads .between t [.string s] .between := by
  cases h with
  | marks ms each =>
    have opens : State.feed '"' .between = some ([], .text .empty) := rfl
    have inside : Leads (.text .empty) (ms.flatMap (·.1)) []
        (.text (ms.foldl (fun p m => p.mark m.2) .empty)) :=
      .foldl (fun m mem p => leads_mark (each m mem) p) .empty
    have read : (ms.foldl (fun p m => Partial.mark p m.2) .empty).content =
        content (ms.map (·.2)) := by
      rw [← List.foldl_map, content_foldl _ rfl (by simp [Partial.empty])]
      simp [Partial.pending, Partial.empty]
    have closes : State.feed '"' (.text (ms.foldl (fun p m => p.mark m.2) .empty)) =
        some ([.string (content (ms.map (·.2)))], .between) := by
      simp [State.feed, read]
    exact .cons opens (inside.append (.of_feed closes))

theorem leads_key {t : Text} {key : Option Text} (h : WrittenKey t key) :
    Leads .between t [.string key] .between := by
  cases h with
  | pad above string below =>
    simpa using (above.leads.append (leads_string string)).append below.leads

theorem spellsItems_joinWith {items : List (Text × Read)} (some : items ≠ [])
    (each : ∀ x ∈ items, Spells x.1 x.2) :
    SpellsItems (Text.joinWith ',' (items.map (·.1))) (items.map (·.2)) := by
  induction items with
  | nil => exact absurd rfl some
  | cons x items ih =>
    obtain ⟨here, others⟩ := List.forall_mem_cons.1 each
    cases items with
    | nil => exact here.item
    | cons y items => exact here.items (ih (List.cons_ne_nil y items) others)

theorem spellsMembers_joinWith {members : List Member} (some : members ≠ [])
    (keys : ∀ m ∈ members, WrittenKey m.name m.key) (each : ∀ m ∈ members, Spells m.text m.value) :
    SpellsMembers (Text.joinWith ',' (members.map (·.spelling)))
      (members.map fun m => (m.key, m.value)) := by
  induction members with
  | nil => exact absurd rfl some
  | cons m members ih =>
    obtain ⟨key, keys⟩ := List.forall_mem_cons.1 keys
    obtain ⟨here, others⟩ := List.forall_mem_cons.1 each
    cases members with
    | nil => exact here.member (leads_key key)
    | cons m' members =>
      have more := ih (List.cons_ne_nil m' members) keys others
      exact here.members (leads_key key) more

theorem spells_of_written {t : Text} {v : Read} (h : Written t v) : Spells t v := by
  induction h with
  | null => exact spells_null
  | bool b => exact spells_bool b
  | number number => exact spells_number number.isNumber
  | string string => exact spells_string (leads_string string)
  | pad above _ below ih => exact ih.pad above below
  | array white items _ ih =>
    cases items with
    | nil =>
      have opens : Leads .between ['['] [.openArray] .between := .of_feed rfl
      have closes : Leads .between [']'] [.closeArray] .between := .of_feed rfl
      have tokens := (opens.append white.leads).append closes
      exact ⟨_, by simpa [Text.joinWith] using tokens.scans, completes_empty_array⟩
    | cons x items =>
      have inside : SpellsItems _ _ :=
        (spellsItems_joinWith (List.cons_ne_nil x items) ih).pad white white_nil
      simpa using inside.array
  | object white members keys _ ih =>
    cases members with
    | nil =>
      have opens : Leads .between ['\x7b'] [.openObject] .between := .of_feed rfl
      have closes : Leads .between ['\x7d'] [.closeObject] .between := .of_feed rfl
      have tokens := (opens.append white.leads).append closes
      exact ⟨_, by simpa [Text.joinWith] using tokens.scans, completes_empty_object⟩
    | cons m members =>
      have inside : SpellsMembers _ _ :=
        (spellsMembers_joinWith (List.cons_ne_nil m members) keys ih).pad white white_nil
      simpa using inside.object

theorem read_of_written {t : Text} {v : Read} (h : Written t v) : read t = some v :=
  read_of_spells (spells_of_written h)

theorem exists_mark (c : Char) :
    ∃ m, WrittenMark (escape c) m ∧ ∀ ms, content (m :: ms) = (content ms).map (c :: ·) := by
  have short {l : Char} (means : unescape l = some c) :
      ∃ m, WrittenMark ['\\', l] m ∧ ∀ ms, content (m :: ms) = (content ms).map (c :: ·) :=
    ⟨.char c, .letter means, fun _ => rfl⟩
  unfold escape
  split_ifs with quote backslash backspace feed newline return_ tab control
  · exact short (by rw [quote]; rfl)
  · exact short (by rw [backslash]; rfl)
  · exact short (by rw [backspace]; rfl)
  · exact short (by rw [feed]; rfl)
  · exact short (by rw [newline]; rfl)
  · exact short (by rw [return_]; rfl)
  · exact short (by rw [tab]; rfl)
  · have high := hexValue_digitChar (show c.toNat / 16 < 16 by omega)
    have low := hexValue_digitChar (show c.toNat % 16 < 16 by omega)
    have value : ((0 * 16 + 0) * 16 + c.toNat / 16) * 16 + c.toNat % 16 = c.toNat := by omega
    have notHigh : ¬ IsHigh c.toNat := by
      unfold IsHigh
      omega
    have notLow : ¬ IsLow c.toNat := by
      unfold IsLow
      omega
    have zero : hexValue '0' = some 0 := rfl
    have written := WrittenMark.unit zero zero high low
    rw [value] at written
    refine ⟨_, written, fun ms => ?_⟩
    rw [content_unit notHigh, if_neg notLow, Char.ofNat_toNat]
  · exact ⟨.char c, .plain quote backslash (Nat.le_of_not_lt control), fun _ => rfl⟩

theorem writtenString_quote (t : Text) : WrittenString (quote t) (some t) := by
  obtain ⟨ms, each, spelling, value⟩ : ∃ ms : List (Text × Mark),
      (∀ m ∈ ms, WrittenMark m.1 m.2) ∧ ms.flatMap (·.1) = t.flatMap escape ∧
        content (ms.map (·.2)) = some t := by
    induction t with
    | nil => exact ⟨[], nofun, rfl, rfl⟩
    | cons c t ih =>
      obtain ⟨ms, each, spelling, value⟩ := ih
      obtain ⟨m, written, stands⟩ := exists_mark c
      refine ⟨(escape c, m) :: ms, List.forall_mem_cons.2 ⟨written, each⟩, ?_, ?_⟩
      · simp [spelling]
      · simp [stands, value]
  have string := WrittenString.marks ms each
  rwa [spelling, value] at string

end ScriptDesk.Json
