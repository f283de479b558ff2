import ScriptDesk.Json.Printer
import ScriptDesk.Json.Token
import Mathlib.Data.List.TakeWhile
import Mathlib.Tactic.SplitIfs

namespace ScriptDesk.Json

theorem scanFrom_nil (s : State) : scanFrom s [] = s.finish := rfl

theorem scanFrom_cons (s : State) (c : Char) (t : Text) :
    scanFrom s (c :: t) = (s.feed c).bind fun r => (scanFrom r.2 t).map (r.1 ++ ·) := by
  rw [scanFrom]
  simp only [bind, pure, Option.map_eq_bind]
  rfl

theorem scanFrom_of_feed {s s' : State} {c : Char} {ts : List Token}
    (h : s.feed c = some (ts, s')) (t : Text) :
    scanFrom s (c :: t) = (scanFrom s' t).map (ts ++ ·) := by
  rw [scanFrom_cons, h]
  rfl

/-- The text leads from one state to the other and completes the tokens on the way. -/
def Leads (s : State) (t : Text) (ts : List Token) (s' : State) : Prop :=
  ∀ rest, scanFrom s (t ++ rest) = (scanFrom s' rest).map (ts ++ ·)

namespace Leads

theorem nil (s : State) : Leads s [] [] s := by
  intro rest
  simp

theorem append {s s' s'' : State} {t u : Text} {ts us : List Token} (ht : Leads s t ts s')
    (hu : Leads s' u us s'') : Leads s (t ++ u) (ts ++ us) s'' := by
  intro rest
  rw [List.append_assoc, ht, hu, Option.map_map]
  congr 1
  funext more
  simp

theorem of_feed {s s' : State} {c : Char} {ts : List Token} (h : s.feed c = some (ts, s')) :
    Leads s [c] ts s' := scanFrom_of_feed h

theorem cons {s s' s'' : State} {c : Char} {t : Text} {ts : List Token}
    (h : s.feed c = some ([], s')) (ht : Leads s' t ts s'') : Leads s (c :: t) ts s'' :=
  (of_feed h).append ht

theorem foldl {f : σ → ι → σ} {state : σ → State} {spell : ι → Text} {parts : List ι}
    (each : ∀ i ∈ parts, ∀ x, Leads (state x) (spell i) [] (state (f x i))) (x : σ) :
    Leads (state x) (parts.flatMap spell) [] (state (parts.foldl f x)) := by
  induction parts generalizing x with
  | nil => exact nil _
  | cons i parts ih =>
    obtain ⟨here, others⟩ := List.forall_mem_cons.1 each
    exact (here x).append (ih others (f x i))

end Leads

theorem leads_collect {state : Text → State} {t : Text}
    (feeds : ∀ c ∈ t, ∀ read, (state read).feed c = some ([], state (c :: read))) (read : Text) :
    Leads (state read) t [] (state (t.reverse ++ read)) := by
  have collected : Leads (state read) (t.flatMap fun c => [c]) []
      (state (t.foldl (fun read c => c :: read) read)) :=
    Leads.foldl (fun c hc x => Leads.of_feed (feeds c hc x)) read
  simpa using collected

theorem hexValue_digitChar {d : Nat} (h : d < 16) : hexValue (Nat.digitChar d) = some d := by
  have all : ∀ d, d < 16 → hexValue (Nat.digitChar d) = some d := by decide
  exact all d h

theorem leads_hexPair (p : Partial) {n : Nat} (h : n < 0x100) :
    Leads (.hex p 2 0) (hexPair n) [] (.text (p.pushUnit n)) := by
  have high : State.feed (Nat.digitChar (n / 16)) (.hex p 2 0) = some ([], .hex p 1 (n / 16)) := by
    simp [State.feed, hexValue_digitChar (show n / 16 < 16 by omega)]
  have low : State.feed (Nat.digitChar (n % 16)) (.hex p 1 (n / 16)) =
      some ([], .text (p.pushUnit n)) := by
    have whole : n / 16 * 16 + n % 16 = n := by omega
    simp [State.feed, hexValue_digitChar (show n % 16 < 16 by omega), whole]
  exact .cons high (.of_feed low)

theorem pushUnit_of_lt (p : Partial) {c : Char} (h : c.toNat < 0x20) :
    p.pushUnit c.toNat = p.push c := by
  rw [Partial.pushUnit, if_neg (by omega), if_neg (by omega), Char.ofNat_toNat]

theorem leads_letter (p : Partial) {letter c : Char} (h : unescape letter = some c) :
    Leads (.text p) ['\\', letter] [] (.text (p.push c)) := by
  have escapes : State.feed '\\' (.text p) = some ([], .escape p) := by simp [State.feed]
  have notHex : letter ≠ 'u' := by
    rintro rfl
    cases h
  have means : State.feed letter (.escape p) = some ([], .text (p.push c)) := by
    simp [State.feed, notHex, h]
  exact .cons escapes (.of_feed means)

theorem leads_escape (p : Partial) (c : Char) :
    Leads (.text p) (escape c) [] (.text (p.push c)) := by
  unfold escape
  split_ifs with quote backslash backspace feed newline return_ tab control
  · subst quote
    exact leads_letter p rfl
  · subst backslash
    exact leads_letter p rfl
  · subst backspace
    exact leads_letter p rfl
  · subst feed
    exact leads_letter p rfl
  · subst newline
    exact leads_letter p rfl
  · subst return_
    exact leads_letter p rfl
  · subst tab
    exact leads_letter p rfl
  · have escapes : State.feed '\\' (.text p) = some ([], .escape p) := rfl
    have counts : State.feed 'u' (.escape p) = some ([], .hex p 4 0) := rfl
    rw [← pushUnit_of_lt p control]
    exact .cons escapes (.cons counts (.cons rfl (.cons rfl (leads_hexPair p (by omega)))))
  · refine .of_feed ?_
    simp [State.feed, quote, backslash, control]

theorem foldl_push (t : Text) (p : Partial) (sound : p.sound = true) (whole : p.half = none) :
    t.foldl Partial.push p = ⟨t.reverse ++ p.chars, none, true⟩ := by
  induction t generalizing p with
  | nil =>
    obtain ⟨chars, half, s⟩ := p
    simp_all
  | cons c t ih =>
    rw [List.foldl_cons, ih (p.push c) (by simp [Partial.push, sound, whole]) rfl]
    simp [Partial.push]

theorem leads_quote (t : Text) : Leads .between (quote t) [.string (some t)] .between := by
  have content : (t.foldl Partial.push .empty).content = some t := by
    rw [foldl_push t .empty rfl rfl]
    simp [Partial.content, Partial.empty]
  have opens : State.feed '"' .between = some ([], .text .empty) := rfl
  have closes : State.feed '"' (.text (t.foldl Partial.push .empty)) =
      some ([.string (some t)], .between) := by
    simp [State.feed, content]
  have inside : Leads (.text .empty) (t.flatMap escape) [] (.text (t.foldl Partial.push .empty)) :=
    .foldl (fun c _ p => leads_escape p c) .empty
  exact .cons opens (inside.append (.of_feed closes))

def Delimits (t : Text) : Prop := ∀ c ∈ t.head?, isNumberChar c = false ∧ c.isLower = false

theorem delimits_cons {c : Char} (t : Text) (number : isNumberChar c = false)
    (word : c.isLower = false) : Delimits (c :: t) := by
  rintro d ⟨rfl⟩
  exact ⟨number, word⟩

theorem Delimits.append {s t : Text} (hs : Delimits s) (ht : Delimits t) : Delimits (s ++ t) := by
  cases s with
  | nil => exact ht
  | cons c s => exact hs

def Scans (t : Text) (ts : List Token) : Prop :=
  ∀ rest, Delimits rest →
    scanFrom .between (t ++ rest) = (scanFrom .between rest).map (ts ++ ·)

theorem Leads.scans {t : Text} {ts : List Token} (h : Leads .between t ts .between) :
    Scans t ts := fun rest _ => h rest

theorem Scans.append {s t : Text} {ss ts : List Token} (hs : Scans s ss) (ht : Scans t ts)
    (delimits : Delimits t) : Scans (s ++ t) (ss ++ ts) := by
  intro rest free
  rw [List.append_assoc, hs _ (delimits.append free), ht rest free, Option.map_map]
  congr 1
  funext more
  simp

theorem Leads.append_scans {s t : Text} {ss ts : List Token} (hs : Leads .between s ss .between)
    (ht : Scans t ts) : Scans (s ++ t) (ss ++ ts) := by
  intro rest free
  rw [List.append_assoc, hs, ht rest free, Option.map_map]
  congr 1
  funext more
  simp

theorem Scans.scan {t : Text} {ts : List Token} (h : Scans t ts) : scan t = some ts := by
  have whole := h [] (by simp [Delimits])
  simpa [Json.scan, scanFrom, State.finish] using whole

theorem scans_of_finish {s : State} {ts : List Token} (held : s.finish = some ts)
    (stops : ∀ c, isNumberChar c = false → c.isLower = false →
      s.feed c = (start c).map fun r => (ts ++ r.1, r.2))
    {t : Text} (leads : Leads .between t [] s) : Scans t ts := by
  intro rest free
  rw [leads rest]
  cases rest with
  | nil =>
    rw [scanFrom_nil, held, scanFrom_nil]
    simp [State.finish]
  | cons c rest =>
    obtain ⟨number, word⟩ := free c rfl
    rw [scanFrom_cons, scanFrom_cons, stops c number word, State.feed]
    cases start c with
    | none => rfl
    | some r => cases scanFrom r.2 rest <;> simp [Function.comp_def]

theorem isNumberChar_of_isDigit {c : Char} (h : c.isDigit = true) : isNumberChar c = true := by
  simp [isNumberChar, h]

theorem forall_isNumberChar {t : Text}
    (h : ∀ c ∈ t.dropWhile Char.isDigit, isNumberChar c = true) :
    ∀ c ∈ t, isNumberChar c = true := by
  intro c hc
  have split : t.takeWhile Char.isDigit ++ t.dropWhile Char.isDigit = t :=
    List.takeWhile_append_dropWhile
  rw [← split, List.mem_append] at hc
  rcases hc with digit | later
  · exact isNumberChar_of_isDigit (List.mem_takeWhile_imp digit)
  · exact h c later

theorem isNumberChar_of_isExponent {t : Text} (h : isExponent t = true) :
    ∀ c ∈ t, isNumberChar c = true := by
  unfold isExponent at h
  split at h
  · simp
  · next e t =>
    simp only [Bool.and_eq_true, Bool.or_eq_true, beq_iff_eq, List.all_eq_true] at h
    obtain ⟨⟨he, -⟩, digits⟩ := h
    refine List.forall_mem_cons.2 ⟨?_, ?_⟩
    · rcases he with rfl | rfl <;> rfl
    · split at digits
      · exact List.forall_mem_cons.2 ⟨rfl, fun c hc => isNumberChar_of_isDigit (digits c hc)⟩
      · exact List.forall_mem_cons.2 ⟨rfl, fun c hc => isNumberChar_of_isDigit (digits c hc)⟩
      · exact fun c hc => isNumberChar_of_isDigit (digits c hc)

theorem isNumberChar_of_isFraction {t : Text} (h : isFraction t = true) :
    ∀ c ∈ t, isNumberChar c = true := by
  unfold isFraction at h
  split at h
  · simp only [Bool.and_eq_true] at h
    exact List.forall_mem_cons.2 ⟨rfl, forall_isNumberChar (isNumberChar_of_isExponent h.2)⟩
  · exact isNumberChar_of_isExponent h

theorem isMagnitude_cons {t : Text} (h : isMagnitude t = true) :
    ∃ c r, t = c :: r ∧ c.isDigit = true ∧ ∀ d ∈ r, isNumberChar d = true := by
  unfold isMagnitude at h
  split at h
  · exact ⟨_, _, rfl, rfl, isNumberChar_of_isFraction h⟩
  · simp only [Bool.and_eq_true] at h
    exact ⟨_, _, rfl, h.1, forall_isNumberChar (isNumberChar_of_isFraction h.2)⟩
  · cases h

theorem start_of_isDigit {c : Char} (h : c.isDigit = true) :
    start c = some ([], .number [c]) := by
  have all : ∀ d, d < 10 → start (Nat.digitChar d) = some ([], .number [Nat.digitChar d]) := by
    decide
  have here : 48 ≤ c.toNat ∧ c.toNat ≤ 57 := by
    simpa [Char.isDigit, UInt32.le_iff_toNat_le] using h
  have digit : c = Nat.digitChar (c.toNat - 48) := by
    rw [← Char.toNat_inj, Nat.toNat_digitChar_of_lt_ten (by omega)]
    omega
  rw [digit]
  exact all _ (by omega)

theorem isNumber_cons {t : Text} (h : isNumber t = true) :
    ∃ c r, t = c :: r ∧ start c = some ([], .number [c]) ∧ ∀ d ∈ r, isNumberChar d = true := by
  unfold isNumber at h
  split at h
  · obtain ⟨c, r, rfl, digit, others⟩ := isMagnitude_cons h
    exact ⟨_, _, rfl, rfl, List.forall_mem_cons.2 ⟨isNumberChar_of_isDigit digit, others⟩⟩
  · obtain ⟨c, r, rfl, digit, others⟩ := isMagnitude_cons h
    exact ⟨_, _, rfl, start_of_isDigit digit, others⟩

theorem scans_number {literal : Text} (h : isNumber literal = true) :
    Scans literal [.number literal] := by
  obtain ⟨c, t, rfl, starts, chars⟩ := isNumber_cons h
  have feeds : ∀ d ∈ t, ∀ read, State.feed d (.number read) = some ([], .number (d :: read)) := by
    intro d hd read
    simp [State.feed, chars d hd]
  have held : (State.number (t.reverse ++ [c])).finish = some [.number (c :: t)] := by
    simp [State.finish, h]
  refine scans_of_finish held ?_ (.cons starts (leads_collect feeds [c]))
  intro d number _
  cases next : start d <;> simp [State.feed, number, held, next]

theorem scans_word {c : Char} {t : Text} {token : Token} (starts : start c = some ([], .word [c]))
    (chars : t.all Char.isLower = true) (means : wordToken (c :: t) = some token) :
    Scans (c :: t) [token] := by
  have feeds : ∀ d ∈ t, ∀ read, State.feed d (.word read) = some ([], .word (d :: read)) := by
    intro d hd read
    simp [State.feed, List.all_eq_true.1 chars d hd]
  have held : (State.word (t.reverse ++ [c])).finish = some [token] := by
    simp [State.finish, means]
  refine scans_of_finish held ?_ (.cons starts (leads_collect feeds [c]))
  intro d _ word
  cases next : start d <;> simp [State.feed, word, held, next]

end ScriptDesk.Json
