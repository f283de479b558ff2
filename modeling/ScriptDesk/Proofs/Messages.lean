import ScriptDesk.Message.Reader
import ScriptDesk.Proofs.Lines
import Mathlib.Data.List.DropRight
import Mathlib.Tactic.SplitIfs

/-! Messages and the lines they are typed as.  A message is spelled by its command word, a space and
what it applies to, and the line spelled so is read as that message; so the messages that can be
read are the well-formed ones. -/

namespace ScriptDesk
namespace Text

theorem splitSpace_append {a : Text} (h : ' ' ∉ a) (b : Text) :
    splitSpace (a ++ ' ' :: b) = some (a, b) := by
  induction a with
  | nil => simp [splitSpace]
  | cons c a ih =>
    obtain ⟨hc, ha⟩ := List.ne_and_not_mem_of_not_mem_cons h
    rw [List.cons_append, splitSpace, if_neg (Ne.symm hc), ih ha]
    rfl

theorem eq_of_splitSpace {t a b : Text} (h : splitSpace t = some (a, b)) :
    t = a ++ ' ' :: b ∧ ' ' ∉ a := by
  induction t generalizing a with
  | nil => cases h
  | cons c t ih =>
    rw [splitSpace] at h
    split at h
    · next space =>
      cases h
      exact ⟨by rw [space]; rfl, List.not_mem_nil⟩
    · next other =>
      obtain ⟨⟨a', b'⟩, split, same⟩ := Option.map_eq_some_iff.1 h
      cases same
      obtain ⟨rfl, free⟩ := ih split
      exact ⟨rfl, List.not_mem_cons_of_ne_of_not_mem (Ne.symm other) free⟩

structure Neat (t : Text) : Prop where
  given : t ≠ []
  first : ∀ c, t.head? = some c → isBlank c = false
  last : ∀ c, t.getLast? = some c → isBlank c = false

def Unended (t : Text) : Prop := ∀ c, t.getLast? = some c → c ≠ '\r' ∧ c ≠ '\n'

theorem head?_trimEnd {t : Text} (given : trimEnd t ≠ []) : (trimEnd t).head? = t.head? := by
  obtain ⟨rest, whole⟩ : trimEnd t <+: t := List.rdropWhile_prefix isBlank t
  calc
    (trimEnd t).head? = (trimEnd t ++ rest).head? := (List.head?_append_of_ne_nil _ given).symm
    _ = t.head? := by rw [whole]

theorem getLast?_trimStart {t : Text} (given : trimStart t ≠ []) :
    (trimStart t).getLast? = t.getLast? := by
  obtain ⟨rest, whole⟩ : trimStart t <:+ t := List.dropWhile_suffix isBlank
  calc
    (trimStart t).getLast? = (rest ++ trimStart t).getLast? :=
      (List.getLast?_append_of_ne_nil _ given).symm
    _ = t.getLast? := by rw [whole]

theorem Neat.trim {t : Text} (h : t.Neat) : trim t = t := by
  rw [Text.trim, trimStart_eq_self h.first, trimEnd_eq_self h.last]

theorem neat_trim {t : Text} (given : trim t ≠ []) : (trim t).Neat where
  given := given
  first c head := head?_trimStart t c ((head?_trimEnd given).symm.trans head)
  last := getLast?_trimEnd _

theorem getLast?_append_space (a : Text) {t : Text} (given : t ≠ []) :
    (a ++ ' ' :: t).getLast? = t.getLast? := by
  rw [List.append_cons, List.getLast?_append_of_ne_nil _ given]

theorem Neat.afterSpace {a t : Text} (h : (a ++ ' ' :: t).Neat) : (Text.trimStart t).Neat := by
  have given : Text.trimStart t ≠ [] := by
    intro none
    have blank : ∀ c ∈ ' ' :: t, isBlank c = true :=
      List.forall_mem_cons.2 ⟨rfl, List.dropWhile_eq_nil_iff.1 none⟩
    have last := List.getLast?_eq_some_getLast (List.cons_ne_nil ' ' t)
    have visible := h.last _ ((List.getLast?_append_of_ne_nil a (List.cons_ne_nil _ _)).trans last)
    rw [blank _ (List.getLast_mem _)] at visible
    cases visible
  have some : t ≠ [] := by
    rintro rfl
    exact given rfl
  refine ⟨given, head?_trimStart t, fun c last => h.last c ?_⟩
  rwa [getLast?_append_space a some, ← getLast?_trimStart given]

theorem Neat.unended {t : Text} (h : t.Neat) : t.Unended := by
  intro c last
  have visible := h.last c last
  constructor
  · rintro rfl
    cases visible
  · rintro rfl
    cases visible

theorem unended_nil : Unended [] := nofun

theorem unended_append {a b : Text} (given : b ≠ []) : Unended (a ++ b) ↔ Unended b := by
  rw [Unended, Unended, List.getLast?_append_of_ne_nil _ given]

theorem unended_append_space {a t : Text} : Unended (a ++ ' ' :: t) ↔ Unended t := by
  rw [unended_append (List.cons_ne_nil _ t)]
  cases t with
  | nil => simp [Unended]
  | cons c t => exact unended_append (a := [' ']) (List.cons_ne_nil c t)

theorem Unended.trimStart {t : Text} (h : t.Unended) : (trimStart t).Unended := by
  by_cases none : Text.trimStart t = []
  · rw [none]
    exact unended_nil
  · intro c last
    exact h c ((getLast?_trimStart none).symm.trans last)

theorem isBlank_of_isDigit {c : Char} (h : c.isDigit = true) : isBlank c = false := by
  have bounds : 48 ≤ c.toNat ∧ c.toNat ≤ 57 := by
    simpa [Char.isDigit, UInt32.le_iff_toNat_le] using h
  simp [isBlank]
  omega

theorem neat_ofNat (n : Nat) : (ofNat n).Neat where
  given := Nat.toDigits_ne_nil
  first _ head := isBlank_of_isDigit (isDigit_of_mem_ofNat (List.mem_of_head? head))
  last _ last := isBlank_of_isDigit (isDigit_of_mem_ofNat (List.mem_of_getLast? last))

end Text

namespace Message

theorem typed_eq_self {line : Text} (h : line.Unended) : typed line = line := by
  refine List.rdropWhile_eq_self_iff.2 fun some => ?_
  have last := h _ (List.getLast?_eq_some_getLast some)
  simpa using last

theorem unended_typed (line : Text) : (typed line).Unended := by
  intro c last
  have some : typed line ≠ [] := by
    rintro none
    rw [none] at last
    cases last
  have kept : ¬((typed line).getLast some == '\r' || (typed line).getLast some == '\n') = true :=
    List.rdropWhile_last_not _ line some
  rw [List.getLast?_eq_some_getLast some] at last
  cases last
  simpa using kept

end Message

namespace Verb

def word (verb : Verb) : Text := ((table.find? (·.2 = verb)).map (·.1)).getD []

theorem ofWord?_word (verb : Verb) : ofWord? verb.word = some verb := by
  cases verb <;> rfl

theorem not_mem_word (verb : Verb) : ' ' ∉ verb.word := by
  cases verb <;> decide

end Verb

namespace Message

theorem read_word (verb : Verb) {arg : Text} (h : arg.Unended) :
    read (verb.word ++ ' ' :: arg) = ofVerb arg verb := by
  rw [read, typed_eq_self (Text.unended_append_space.2 h), Text.splitSpace_append verb.not_mem_word]
  simp [verb.ofWord?_word]

theorem ofVerb_of_read {line : Text} {m : Message} (h : read line = .ok m) :
    ∃ verb arg, arg.Unended ∧ ofVerb arg verb = .ok m := by
  simp only [read] at h
  split at h
  · next verb known =>
    refine ⟨verb, _, ?_, h⟩
    cases split : Text.splitSpace (typed line) with
    | none => exact Text.unended_nil
    | some parts =>
      obtain ⟨whole, -⟩ := Text.eq_of_splitSpace split
      have kept := unended_typed line
      rw [whole] at kept
      exact Text.unended_append_space.1 kept
  · split at h <;> cases h

def IsLineNumber (n : Nat) : Prop := 1 ≤ n ∧ n < UInt64.size

theorem number?_of_isDigit {t : Text} (given : t ≠ []) (digits : ∀ c ∈ t, c.isDigit = true) :
    number? t =
      if Nat.ofDigitChars 10 t 0 < UInt64.size then some (Nat.ofDigitChars 10 t 0) else none := by
  cases t with
  | nil => exact absurd rfl given
  | cons c t =>
    have unsigned : c ≠ '+' := by
      rintro rfl
      cases digits '+' List.mem_cons_self
    have all : (c :: t).all Char.isDigit = true := List.all_eq_true.2 digits
    simp only [List.all_cons] at all
    simp [number?, unsigned, all]

theorem number?_ofNat {n : Nat} (h : n < UInt64.size) : number? (Text.ofNat n) = some n := by
  have value : Nat.ofDigitChars 10 (Text.ofNat n) 0 = n := Nat.ofDigitChars_ten_toDigits
  rw [number?_of_isDigit (Text.neat_ofNat n).given fun _ => Text.isDigit_of_mem_ofNat, value, if_pos h]

theorem lt_of_number? {t : Text} {n : Nat} (h : number? t = some n) : n < UInt64.size := by
  simp only [number?] at h
  split_ifs at h with noDigits fits
  cases h
  exact fits

theorem lineNumber_ofNat {n : Nat} (h : IsLineNumber n) : lineNumber (Text.ofNat n) = .ok n := by
  obtain ⟨pos, small⟩ := h
  rw [lineNumber, (Text.neat_ofNat n).trim, number?_ofNat small]
  cases n with
  | zero => omega
  | succ n => rfl

theorem isLineNumber_of_lineNumber {arg : Text} {n : Nat} (h : lineNumber arg = .ok n) :
    IsLineNumber n := by
  rw [lineNumber] at h
  split at h
  · next n' number =>
    cases h
    exact ⟨Nat.succ_pos n', lt_of_number? number⟩
  · cases h

/-- A message that can be typed.  A search is split off at the first space; what replaces it is the
rest. -/
def WellFormed : Message → Prop
  | .openFile path | .select path | .remove path => path.Neat
  | .setTheme name => name.Neat
  | .append line => line.Unended
  | .setLine n line => IsLineNumber n ∧ line.Unended
  | .deleteLine n => IsLineNumber n
  | .replace search new =>
    (search ≠ [] ∧ ' ' ∉ search ∧ ∀ c, search.head? = some c → Text.isBlank c = false) ∧ new.Neat
  | .tick => False
  | _ => True

def spelling? : Message → Option (Verb × Text)
  | .openFile path => some (.openFile, path)
  | .select path => some (.select, path)
  | .remove path => some (.remove, path)
  | .listRecent => some (.listRecent, [])
  | .save => some (.save, [])
  | .quit => some (.quit, [])
  | .append line => some (.append, line)
  | .setLine n line => some (.setLine, Text.ofNat n ++ ' ' :: line)
  | .deleteLine n => some (.deleteLine, Text.ofNat n)
  | .replace search new => some (.replace, search ++ ' ' :: new)
  | .format => some (.format, [])
  | .print => some (.print, [])
  | .highlight => some (.highlight, [])
  | .status => some (.status, [])
  | .setTheme name => some (.setTheme, name)
  | .shell => some (.shell, [])
  | .tick => none
  | .check => some (.check, [])
  | .focusGained => some (.focus, [])
  | .focusLost => some (.blur, [])
  | .keepMine => some (.keep, [])
  | .reloadTheirs => some (.reload, [])
  | .help => some (.help, [])

theorem required_of_neat (what : String) {arg : Text} (h : arg.Neat) :
    required what (Text.trim arg) = .ok arg := by
  rw [h.trim, required, List.isEmpty_eq_false_iff.2 h.given]
  rfl

theorem neat_of_required {what : String} {rest arg : Text}
    (h : required what (Text.trim rest) = .ok arg) : arg.Neat := by
  rw [required] at h
  split at h
  · cases h
  · next given =>
    cases h
    exact Text.neat_trim fun none => given (by rw [none]; rfl)

theorem neat_replacement {search new : Text} (hs : WellFormed (.replace search new)) :
    (search ++ ' ' :: new).Neat := by
  obtain ⟨⟨given, -, first⟩, neat⟩ := hs
  refine ⟨List.append_ne_nil_of_left_ne_nil given _, fun c head => ?_, fun c last => ?_⟩
  · rw [List.head?_append_of_ne_nil _ given] at head
    exact first c head
  · rw [Text.getLast?_append_space search neat.given] at last
    exact neat.last c last

theorem unended_of_spelling? {m : Message} (h : m.WellFormed) {verb : Verb} {arg : Text}
    (spelled : m.spelling? = some (verb, arg)) : arg.Unended := by
  cases m <;> cases spelled
  case openFile | select | remove | setTheme => exact Text.Neat.unended h
  case append => exact h
  case setLine => exact Text.unended_append_space.2 h.2
  case deleteLine => exact (Text.neat_ofNat _).unended
  case replace => exact (neat_replacement h).unended
  all_goals exact Text.unended_nil

theorem ofVerb_setLine {n : Nat} (h : IsLineNumber n) (line : Text) :
    ofVerb (Text.ofNat n ++ ' ' :: line) .setLine = .ok (.setLine n line) := by
  have started : Text.trimStart (Text.ofNat n ++ ' ' :: line) = Text.ofNat n ++ ' ' :: line := by
    refine Text.trimStart_eq_self fun c head => ?_
    rw [List.head?_append_of_ne_nil _ (Text.neat_ofNat n).given] at head
    exact (Text.neat_ofNat n).first c head
  have free : ' ' ∉ Text.ofNat n := by
    intro mem
    cases Text.isDigit_of_mem_ofNat mem
  rw [ofVerb, started, Text.splitSpace_append free]
  simp [lineNumber_ofNat h, Functor.map, Except.map]

theorem ofVerb_replace {search new : Text} (h : WellFormed (.replace search new)) :
    ofVerb (search ++ ' ' :: new) .replace = .ok (.replace search new) := by
  rw [ofVerb, (neat_replacement h).trim, Text.splitSpace_append h.1.2.1]
  simp [Text.trimStart_eq_self h.2.first]

theorem ofVerb_of_spelling? {m : Message} (h : m.WellFormed) {verb : Verb} {arg : Text}
    (spelled : m.spelling? = some (verb, arg)) : ofVerb arg verb = .ok m := by
  cases m <;> cases spelled
  case openFile | select | remove | setTheme =>
    rw [ofVerb, required_of_neat _ h]
    rfl
  case setLine => exact ofVerb_setLine h.1 _
  case deleteLine =>
    rw [ofVerb, (Text.neat_ofNat _).trim, lineNumber_ofNat h]
    rfl
  case replace => exact ofVerb_replace h
  all_goals rfl

theorem exists_of_map_ok {ε α β : Type} {f : α → β} {r : Except ε α} {b : β}
    (h : f <$> r = .ok b) : ∃ a, r = .ok a ∧ f a = b := by
  cases r with
  | error e => cases h
  | ok a =>
    cases h
    exact ⟨a, rfl, rfl⟩

theorem wellFormed_of_setLine {rest : Text} {m : Message} (kept : rest.Unended)
    (h : ofVerb rest .setLine = .ok m) : m.WellFormed := by
  rw [ofVerb] at h
  cases split : Text.splitSpace (Text.trimStart rest) with
  | none =>
    rw [split] at h
    obtain ⟨n, number, rfl⟩ := exists_of_map_ok h
    exact ⟨isLineNumber_of_lineNumber number, Text.unended_nil⟩
  | some parts =>
    rw [split] at h
    obtain ⟨n, number, rfl⟩ := exists_of_map_ok h
    obtain ⟨whole, -⟩ := Text.eq_of_splitSpace split
    have kept := kept.trimStart
    rw [whole] at kept
    exact ⟨isLineNumber_of_lineNumber number, Text.unended_append_space.1 kept⟩

theorem wellFormed_of_replace {rest : Text} {m : Message} (h : ofVerb rest .replace = .ok m) :
    m.WellFormed := by
  rw [ofVerb] at h
  split at h
  · next search new split =>
    cases h
    obtain ⟨whole, free⟩ := Text.eq_of_splitSpace split
    have neat : (Text.trim rest).Neat := Text.neat_trim fun none => by
      rw [none] at whole
      exact List.append_ne_nil_of_right_ne_nil _ (List.cons_ne_nil _ _) whole.symm
    rw [whole] at neat
    have given : search ≠ [] := by
      rintro rfl
      cases neat.first ' ' rfl
    refine ⟨⟨given, free, fun c head => neat.first c ?_⟩, neat.afterSpace⟩
    rwa [List.head?_append_of_ne_nil _ given]
  · cases h

theorem wellFormed_of_ofVerb {verb : Verb} {rest : Text} {m : Message} (kept : rest.Unended)
    (h : ofVerb rest verb = .ok m) : m.WellFormed := by
  cases verb
  case openFile | select | remove | setTheme =>
    obtain ⟨arg, given, rfl⟩ := exists_of_map_ok h
    exact neat_of_required given
  case append =>
    cases h
    exact kept
  case setLine => exact wellFormed_of_setLine kept h
  case deleteLine =>
    obtain ⟨n, number, rfl⟩ := exists_of_map_ok h
    exact isLineNumber_of_lineNumber number
  case replace => exact wellFormed_of_replace h
  all_goals
    cases h
    trivial

/-- A message can be typed exactly when it is well formed.  A line that is set and a line that is
appended come through as they are typed, blanks included. -/
theorem read_iff_wellFormed :
    (∀ m, (∃ line, read line = .ok m) ↔ m.WellFormed) ∧
    (∀ n line, IsLineNumber n → Text.Unended line →
      read (":set ".toList ++ Text.ofNat n ++ ' ' :: line) = .ok (.setLine n line)) ∧
    ∀ line, Text.Unended line → read (":append ".toList ++ line) = .ok (.append line) := by
  refine ⟨fun m => ⟨?_, fun formed => ?_⟩, fun n line number kept => ?_, fun line kept => ?_⟩
  · rintro ⟨line, read⟩
    obtain ⟨verb, rest, kept, read⟩ := ofVerb_of_read read
    exact wellFormed_of_ofVerb kept read
  · cases spelled : m.spelling? with
    | none =>
      cases m <;> cases spelled
      exact formed.elim
    | some parts =>
      obtain ⟨verb, arg⟩ := parts
      refine ⟨verb.word ++ ' ' :: arg, ?_⟩
      rw [read_word verb (unended_of_spelling? formed spelled)]
      exact ofVerb_of_spelling? formed spelled
  · rw [List.append_assoc]
    calc
      read (":set ".toList ++ (Text.ofNat n ++ ' ' :: line))
        = ofVerb (Text.ofNat n ++ ' ' :: line) .setLine :=
          read_word .setLine (Text.unended_append_space.2 kept)
      _ = .ok (.setLine n line) := ofVerb_setLine number line
  · exact read_word .append kept

end Message
end ScriptDesk
