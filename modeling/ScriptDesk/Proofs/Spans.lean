import ScriptDesk.Highlight.Bytes
import ScriptDesk.Highlight.Shell
import ScriptDesk.Proofs.Lines
import Mathlib.Data.List.Chain

/-! Spans cover what they are taken of.  While scopes open and close along a line, what lies before
the position reached is covered; at the end that is the line.  A line is cut at the same places by
the bytes that are reported as by the characters these stand for. -/

namespace ScriptDesk
namespace Text

variable {body line : Text}

structure IsLine (body line : Text) : Prop where
  free : '\n' ∉ body
  ends : line = body ∨ line = body ++ ['\n']

theorem IsLine.bare (free : '\n' ∉ body) : IsLine body body := ⟨free, .inl rfl⟩

theorem IsLine.terminated (free : '\n' ∉ body) : IsLine body (body ++ ['\n']) := ⟨free, .inr rfl⟩

theorem IsLine.drop (h : IsLine body line) (i : Nat) : IsLine (body.drop i) (line.drop i) where
  free := fun newline => h.free (List.mem_of_mem_drop newline)
  ends := by
    rcases h.ends with rfl | rfl
    · exact .inl rfl
    · rw [List.drop_append]
      cases i - body.length with
      | zero => exact .inr rfl
      | succ n => exact .inl (by simp)

theorem IsLine.take (h : IsLine body line) (n : Nat) : IsLine (body.take n) (line.take n) where
  free := fun newline => h.free (List.mem_of_mem_take newline)
  ends := by
    rcases h.ends with rfl | rfl
    · exact .inl rfl
    · rw [List.take_append]
      cases n - body.length with
      | zero => exact .inl (by simp)
      | succ n => exact .inr (by simp)

theorem IsLine.trimNewlines_eq (h : IsLine body line) : trimNewlines line = body := by
  have kept : body.reverse.dropWhile (· == '\n') = body.reverse := by
    cases split : body.reverse with
    | nil => rfl
    | cons c rest =>
      have here : c ∈ body := List.mem_reverse.1 (split ▸ List.mem_cons_self)
      have other : c ≠ '\n' := fun newline => h.free (newline ▸ here)
      simp [other]
  rcases h.ends with rfl | rfl
  · rw [trimNewlines, kept, List.reverse_reverse]
  · rw [trimNewlines, List.reverse_append, List.reverse_singleton, List.singleton_append,
      List.dropWhile_cons_of_pos (by rfl), kept, List.reverse_reverse]

theorem isLine_of_mem_lines {t : Text} : ∀ line ∈ lines t, ∃ body, IsLine body line := by
  induction t using lineInduction with
  | last p free =>
    cases p with
    | nil => exact nofun
    | cons c p =>
      rw [lines_of_not_mem (List.cons_ne_nil c p) free]
      exact List.forall_mem_singleton.2 ⟨c :: p, .bare free⟩
  | more p t free ih =>
    rw [lines_append free]
    exact List.forall_mem_cons.2 ⟨⟨p, .terminated free⟩, ih⟩

theorem append_of_byteSize_le {a b a' b' : Text} (same : a ++ b = a' ++ b')
    (h : byteSize a ≤ byteSize a') : ∃ m, a' = a ++ m ∧ b = m ++ b' := by
  rcases List.append_eq_append_iff.1 same with later | ⟨m, rfl, rfl⟩
  · exact later
  · have none : m = [] := by
      by_contra some
      have := byteSize_pos some
      rw [byteSize_append] at h
      omega
    exact ⟨[], by simp [none], by simp [none]⟩

theorem between_append (a m b : Text) :
    between (byteSize a) (byteSize (a ++ m)) (a ++ m ++ b) = some m := by
  simp only [between, splitAtByte_append, Option.bind_some, Option.map_some]

theorem charsBefore_append (a b : Text) : charsBefore (byteSize a) (a ++ b) = a.length := by
  rw [charsBefore, splitAtByte_append, Option.map_some, Option.getD_some]

end Text

namespace Highlight

/-- The texts of spans make up a text.  None of them is empty, and neighbours differ in class. -/
structure Covers (spans : List Span) (text : Text) : Prop where
  whole : spans.flatMap (·.text) = text
  given : ∀ s ∈ spans, s.text ≠ []
  apart : spans.IsChain fun a b => a.style ≠ b.style

def CoversLine (spans : List Span) (line : Text) : Prop :=
  ∃ body, Text.IsLine body line ∧ Covers spans body

variable {spans : List Span} {text body line : Text}

theorem covers_nil : Covers [] [] := ⟨rfl, nofun, .nil⟩

theorem Covers.concat (h : Covers spans text) {more : Text} (given : more ≠ []) {style : StyleClass}
    (other : ∀ s ∈ spans.getLast?, s.style ≠ style) :
    Covers (spans ++ [⟨more, style⟩]) (text ++ more) where
  whole := by simp [h.whole]
  given := List.forall_mem_append.2 ⟨h.given, List.forall_mem_singleton.2 given⟩
  apart := by
    refine List.isChain_append.2 ⟨h.apart, .singleton _, ?_⟩
    simpa using other

theorem Covers.lengthen {s : Span} (h : Covers (spans ++ [s]) text) (more : Text) :
    Covers (spans ++ [⟨s.text ++ more, s.style⟩]) (text ++ more) where
  whole := by simp [← h.whole]
  given := by
    obtain ⟨before, last⟩ := List.forall_mem_append.1 h.given
    have given := List.forall_mem_singleton.1 last
    exact List.forall_mem_append.2
      ⟨before, List.forall_mem_singleton.2 (List.append_ne_nil_of_left_ne_nil given more)⟩
  apart := by
    obtain ⟨before, -, last⟩ := List.isChain_append.1 h.apart
    refine List.isChain_append.2 ⟨before, .singleton _, ?_⟩
    simpa using last

theorem covers_addSpan (h : Covers spans.reverse text) (more : Text) (style : StyleClass) :
    Covers (addSpan more style spans).reverse (text ++ Text.trimNewlines more) := by
  simp only [addSpan]
  split
  · next none => rwa [List.isEmpty_iff.1 none, List.append_nil]
  · next some =>
    have given : Text.trimNewlines more ≠ [] := fun none => some (List.isEmpty_iff.2 none)
    -- Spans are listed backwards here: the one that may be lengthened is the first.
    cases spans with
    | nil => exact h.concat given (by simp)
    | cons s ss =>
      rw [List.reverse_cons] at h
      dsimp only
      split
      · next same =>
        rw [List.reverse_cons, ← same]
        exact h.lengthen _
      · next other =>
        rw [List.reverse_cons, List.reverse_cons]
        exact h.concat given (by simpa using other)

theorem covers_plainSpans (line : Text) : Covers (plainSpans line) (Text.trimNewlines line) := by
  simp only [plainSpans]
  split
  · next none =>
    rw [List.isEmpty_iff.1 none]
    exact covers_nil
  · next some =>
    have given : Text.trimNewlines line ≠ [] := fun none => some (List.isEmpty_iff.2 none)
    exact covers_nil.concat given (by simp)

def Ops.Ascending (ops : Ops) : Prop := ops.Pairwise fun a b => a.1 ≤ b.1

theorem take_append_part {i n : Nat} (h : i ≤ n) :
    body.take i ++ (body.drop i).take (n - i) = body.take n := by
  rw [← List.take_add, Nat.add_sub_cancel' h]

theorem covers_spansFrom (isLine : Text.IsLine body line)
    {from_ : Nat} {ops : Ops} {k k' : ScopeStack} {found : List Span}
    (ascending : ops.Ascending) (onward : ∀ o ∈ ops, from_ ≤ o.1)
    (covered : Covers spans.reverse (body.take from_))
    (h : spansFrom line from_ ops k spans = some (found, k')) : Covers found body := by
  induction ops generalizing from_ k spans with
  | nil =>
    cases h
    have rest := covers_addSpan covered (line.drop from_) k'.style
    rwa [(isLine.drop from_).trimNewlines_eq, List.take_append_drop] at rest
  | cons o ops ih =>
    obtain ⟨at_, op⟩ := o
    obtain ⟨later, ascending⟩ := List.pairwise_cons.1 ascending
    have here : from_ ≤ at_ := (List.forall_mem_cons.1 onward).1
    rw [spansFrom] at h
    split at h
    · cases h
    · refine ih ascending later ?_ h
      have part := covers_addSpan covered ((line.drop from_).take (at_ - from_)) k.style
      rwa [((isLine.drop from_).take _).trimNewlines_eq, take_append_part here] at part

variable {g : Grammar}

def Grammar.Ascends (g : Grammar) : Prop :=
  ∀ s line ops s', g.parse s line = some (ops, s') → ops.Ascending

theorem covers_of_spans (ascends : g.Ascends) {p q : g.Progress} (isLine : Text.IsLine body line)
    (h : g.spans p line = some (spans, q)) : Covers spans body := by
  obtain ⟨⟨ops, state⟩, parsed, read⟩ := Option.bind_eq_some_iff.1 h
  obtain ⟨⟨found, k⟩, cut, same⟩ := Option.bind_eq_some_iff.1 read
  cases same
  have start : Covers ([] : List Span).reverse (body.take 0) := covers_nil
  exact covers_spansFrom isLine (ascends _ _ _ _ parsed) (fun _ _ => Nat.zero_le _) start cut

theorem covers_classify (ascends : g.Ascends) (free : '\n' ∉ line) :
    Covers (g.classify line) line := by
  have alone : Text.trimNewlines line = line := (Text.IsLine.bare free).trimNewlines_eq
  rw [Grammar.classify, alone]
  split
  · next spans q read => exact covers_of_spans ascends (.terminated free) read
  · have plain := covers_plainSpans line
    rwa [alone] at plain

theorem covers_classifyLines (ascends : g.Ascends) {ls : List Text}
    (isLine : ∀ line ∈ ls, ∃ body, Text.IsLine body line) (p : Option g.Progress) :
    List.Forall₂ CoversLine (g.classifyLines p ls) ls := by
  induction ls generalizing p with
  | nil => cases p <;> exact .nil
  | cons line ls ih =>
    obtain ⟨⟨body, here⟩, others⟩ := List.forall_mem_cons.1 isLine
    have plain : Covers (plainSpans line) body := here.trimNewlines_eq ▸ covers_plainSpans line
    cases p with
    | none => exact .cons ⟨body, here, plain⟩ (ih others none)
    | some p =>
      rw [Grammar.classifyLines]
      split
      · next spans q read =>
        exact .cons ⟨body, here, covers_of_spans ascends here read⟩ (ih others (some q))
      · exact .cons ⟨body, here, plain⟩ (ih others none)

theorem forall₂_plainSpans {ls : List Text}
    (isLine : ∀ line ∈ ls, ∃ body, Text.IsLine body line) :
    List.Forall₂ (fun spans line => ∃ body, Text.IsLine body line ∧
        spans = if body = [] then [] else [⟨body, .plain⟩]) (ls.map plainSpans) ls := by
  refine List.forall₂_map_left_iff.2 (List.forall₂_same.2 fun line mem => ?_)
  obtain ⟨body, here⟩ := isLine line mem
  refine ⟨body, here, ?_⟩
  simp only [plainSpans, here.trimNewlines_eq, List.isEmpty_iff]

def Grammar.after (g : Grammar) (p : Option g.Progress) (ls : List Text) : Option g.Progress :=
  ls.foldl (fun p line => p.bind fun p => (g.spans p line).map (·.2)) p

theorem after_none (g : Grammar) (ls : List Text) : g.after none ls = none := by
  induction ls with
  | nil => rfl
  | cons line ls ih => exact ih

theorem classifyLines_none (g : Grammar) (ls : List Text) :
    g.classifyLines none ls = ls.map plainSpans := by
  induction ls with
  | nil => rfl
  | cons line ls ih => rw [Grammar.classifyLines, ih, List.map_cons]

theorem classifyLines_of_unread {p : g.Progress} (unread : g.spans p line = none)
    (below : List Text) :
    g.classifyLines (some p) (line :: below) = (line :: below).map plainSpans := by
  rw [Grammar.classifyLines, unread, List.map_cons]
  exact congrArg (plainSpans line :: ·) (classifyLines_none g below)

theorem length_classifyLines (g : Grammar) (p : Option g.Progress) (ls : List Text) :
    (g.classifyLines p ls).length = ls.length := by
  induction ls generalizing p with
  | nil => cases p <;> rfl
  | cons line ls ih =>
    cases p with
    | none => rw [classifyLines_none, List.length_map]
    | some p =>
      rw [Grammar.classifyLines]
      split
      · rw [List.length_cons, ih, List.length_cons]
      · rw [List.length_cons, ih, List.length_cons]

theorem classifyLines_append (g : Grammar) (p : Option g.Progress) (above below : List Text) :
    g.classifyLines p (above ++ below) =
      g.classifyLines p above ++ g.classifyLines (g.after p above) below := by
  induction above generalizing p with
  | nil => cases p <;> rfl
  | cons line above ih =>
    cases p with
    | none =>
      rw [after_none]
      simp only [classifyLines_none, List.map_append]
    | some p =>
      rw [List.cons_append, Grammar.classifyLines, Grammar.classifyLines]
      cases read : g.spans p line with
      | none =>
        have failed : g.after (some p) (line :: above) = g.after none above := by
          simp [Grammar.after, read]
        rw [failed, List.cons_append, ← ih]
      | some r =>
        obtain ⟨spans, q⟩ := r
        have reached : g.after (some p) (line :: above) = g.after (some q) above := by
          simp [Grammar.after, read]
        rw [reached, List.cons_append, ← ih]

theorem classifyText_of_lines_eq {t : Text} {above below : List Text} {p : g.Progress}
    (lines_eq : Text.lines t = above ++ below) (reached : g.after (some g.start) above = some p) :
    g.classifyText t = g.classifyLines (some g.start) above ++ g.classifyLines (some p) below := by
  rw [Grammar.classifyText, lines_eq, classifyLines_append, reached]

/-- Byte positions that do not go back, each of them between two characters of the line or at one of
its ends. -/
structure Ops.Cuts (line : Text) (ops : Ops) : Prop where
  ascending : ops.Ascending
  apart : ∀ o ∈ ops, ∃ before after, line = before ++ after ∧ o.1 = Text.byteSize before

theorem Ops.Cuts.of_cons {o : Nat × ScopeOp} {ops : Ops} (h : Ops.Cuts line (o :: ops)) :
    Ops.Cuts line ops :=
  ⟨(List.pairwise_cons.1 h.ascending).2, (List.forall_mem_cons.1 h.apart).2⟩

theorem spansFromByte_eq {line before after : Text} (split : line = before ++ after) {ops : Ops}
    (cuts : Ops.Cuts line ops) (onward : ∀ o ∈ ops, Text.byteSize before ≤ o.1) (k : ScopeStack)
    (spans : List Span) :
    spansFromByte line (Text.byteSize before) ops k spans =
      some (spansFrom line before.length (Ops.inCharacters line ops) k spans) := by
  induction ops generalizing before after k spans with
  | nil =>
    subst split
    have rest := Text.between_append before after []
    rw [List.append_nil] at rest
    cases after with
    | nil => simp [spansFromByte, spansFrom, Ops.inCharacters, addSpan, Text.trimNewlines]
    | cons c after =>
      have more : Text.byteSize before < Text.byteSize (before ++ c :: after) := by
        rw [Text.byteSize_append]
        exact Nat.lt_add_of_pos_right (Text.byteSize_pos (List.cons_ne_nil c after))
      rw [spansFromByte, if_pos more, rest]
      simp [spansFrom, Ops.inCharacters]
  | cons o ops ih =>
    obtain ⟨at_, op⟩ := o
    obtain ⟨⟨front, back, split', position⟩, -⟩ := List.forall_mem_cons.1 cuts.apart
    obtain ⟨later, -⟩ := List.pairwise_cons.1 cuts.ascending
    obtain ⟨here, -⟩ := List.forall_mem_cons.1 onward
    dsimp only at position here later
    subst position
    obtain ⟨part, rfl, rfl⟩ := Text.append_of_byteSize_le (split.symm.trans split') here
    have next := ih split' cuts.of_cons later
    have cut : (if Text.byteSize before < Text.byteSize (before ++ part) then
        (Text.between (Text.byteSize before) (Text.byteSize (before ++ part)) line).map fun text =>
          addSpan text k.style spans else some spans) = some (addSpan part k.style spans) := by
      split
      · rw [split', Text.between_append, Option.map_some]
      · next none =>
        have empty : part = [] := by
          by_contra some
          have := Text.byteSize_pos some
          rw [Text.byteSize_append] at none
          omega
        rw [empty]
        rfl
    have characters : Text.charsBefore (Text.byteSize (before ++ part)) line =
        (before ++ part).length := by rw [split', Text.charsBefore_append]
    have part_eq : (line.drop before.length).take ((before ++ part).length - before.length) =
        part := by
      rw [split]
      simp
    simp only [spansFromByte, cut, Ops.inCharacters, List.map_cons, spansFrom, characters, part_eq]
    cases op.apply k with
    | none => rfl
    | some k' => exact next k' (addSpan part k.style spans)

theorem ascending_inCharacters {line : Text} {ops : Ops} (cuts : Ops.Cuts line ops) :
    (Ops.inCharacters line ops).Ascending := by
  refine List.pairwise_map.2 (cuts.ascending.imp_of_mem fun {o o'} mem mem' le => ?_)
  obtain ⟨before, after, split, position⟩ := cuts.apart o mem
  obtain ⟨before', after', split', position'⟩ := cuts.apart o' mem'
  rw [position, position'] at le
  have characters : Text.charsBefore (Text.byteSize before) line = before.length := by
    rw [split, Text.charsBefore_append]
  obtain ⟨part, rfl, rfl⟩ := Text.append_of_byteSize_le (split.symm.trans split') le
  have characters' : Text.charsBefore (Text.byteSize (before ++ part)) line =
      (before ++ part).length := by rw [split', Text.charsBefore_append]
  dsimp only
  rw [position, position', characters, characters', List.length_append]
  exact Nat.le_add_right _ _

/-- A grammar that counts bytes and reports cuts of each line, or that it cannot be read. -/
def Grammar.Cuts (g : Grammar) : Prop :=
  ∀ s line ops s', g.parse s line = some (ops, s') → Ops.Cuts line ops

theorem Grammar.Cuts.ascends (h : g.Cuts) : g.inCharacters.Ascends := by
  intro s line ops s' parsed
  obtain ⟨⟨ops, state⟩, reported, same⟩ := Option.map_eq_some_iff.1 parsed
  cases same
  exact ascending_inCharacters (h s line ops s' reported)

theorem Grammar.Cuts.spansInBytes_eq (h : g.Cuts) (p : g.Progress) (line : Text) :
    g.spansInBytes p line = some (g.inCharacters.spans p line) := by
  cases parsed : g.parse p.1 line with
  | none => simp [Grammar.spansInBytes, Grammar.spans, Grammar.inCharacters, parsed]
  | some report =>
    obtain ⟨ops, state⟩ := report
    have whole : line = [] ++ line := rfl
    have cut := spansFromByte_eq whole (h p.1 line ops state parsed)
      (fun _ _ => Nat.zero_le _) p.2 []
    rw [show Text.byteSize [] = 0 from rfl, List.length_nil] at cut
    cases read : spansFrom line 0 (Ops.inCharacters line ops) p.2 [] with
    | none => simp [Grammar.spansInBytes, Grammar.spans, Grammar.inCharacters, parsed, cut, read]
    | some r => simp [Grammar.spansInBytes, Grammar.spans, Grammar.inCharacters, parsed, cut, read]

def Grammar.StaysWithin (g : Grammar) : Prop :=
  ∀ s line ops s', g.parse s line = some (ops, s') → ∀ o ∈ ops, o.1 ≤ line.length

theorem cuts_inBytes (line : Text) {ops : Ops} (ascending : ops.Ascending) :
    Ops.Cuts line (Ops.inBytes line ops) where
  ascending := by
    refine List.pairwise_map.2 (ascending.imp fun {o o'} le => ?_)
    dsimp only
    rw [← take_append_part le, Text.byteSize_append]
    exact Nat.le_add_right _ _
  apart := List.forall_mem_map.2 fun o _ =>
    ⟨line.take o.1, line.drop o.1, (List.take_append_drop o.1 line).symm, rfl⟩

theorem Grammar.Ascends.cuts_inBytes (h : g.Ascends) : g.inBytes.Cuts := by
  intro s line ops s' parsed
  obtain ⟨⟨ops, state⟩, reported, same⟩ := Option.map_eq_some_iff.1 parsed
  cases same
  exact Highlight.cuts_inBytes line (h s line ops s' reported)

theorem inCharacters_inBytes {ops : Ops} (within : ∀ o ∈ ops, o.1 ≤ line.length) :
    Ops.inCharacters line (Ops.inBytes line ops) = ops := by
  rw [Ops.inCharacters, Ops.inBytes, List.map_map]
  conv_rhs => rw [← List.map_id ops]
  refine List.map_congr_left fun o mem => ?_
  have characters := Text.charsBefore_append (line.take o.1) (line.drop o.1)
  rw [List.take_append_drop, List.length_take_of_le (within o mem)] at characters
  exact Prod.ext characters rfl

theorem Grammar.StaysWithin.inCharacters_inBytes (h : g.StaysWithin) :
    g.inBytes.inCharacters = g := by
  obtain ⟨State, initial, parse⟩ := g
  refine congrArg (Grammar.mk State initial) (funext fun s => funext fun line => ?_)
  cases reported : parse s line with
  | none => simp [Grammar.inBytes, reported]
  | some report =>
    have same := Highlight.inCharacters_inBytes (h s line report.1 report.2 reported)
    simp [Grammar.inBytes, reported, same]

namespace Shell

theorem length_scopesFrom (s : State) (t : Text) : (scopesFrom s t).1.length = t.length := by
  induction t generalizing s with
  | nil => rfl
  | cons c t ih => exact congrArg Nat.succ (ih (s.next c t).2)

theorem opsFrom_cons (at_ : Nat) (opened scopes : List Scope) (more : List (List Scope)) :
    ∃ here : Ops, (∀ o ∈ here, o.1 = at_) ∧
      opsFrom at_ opened (scopes :: more) = here ++ opsFrom (at_ + 1) scopes more := by
  refine ⟨_, ?_, rfl⟩
  split
  · exact nofun
  · exact List.forall_mem_cons.2 ⟨rfl, List.forall_mem_map.2 fun _ _ => rfl⟩

theorem mem_opsFrom {at_ : Nat} {opened : List Scope} {scopes : List (List Scope)} :
    ∀ o ∈ opsFrom at_ opened scopes, at_ ≤ o.1 ∧ o.1 ≤ at_ + scopes.length := by
  induction scopes generalizing at_ opened with
  | nil => exact List.forall_mem_singleton.2 ⟨Nat.le_refl at_, Nat.le_refl at_⟩
  | cons here more ih =>
    obtain ⟨ops, same, eq⟩ := opsFrom_cons at_ opened here more
    rw [eq, List.length_cons]
    intro o mem
    rcases List.mem_append.1 mem with mem | mem
    · rw [same o mem]
      omega
    · have := ih o mem
      omega

theorem ascending_opsFrom (at_ : Nat) (opened : List Scope) (scopes : List (List Scope)) :
    (opsFrom at_ opened scopes).Ascending := by
  induction scopes generalizing at_ opened with
  | nil => exact List.pairwise_singleton _ _
  | cons here more ih =>
    obtain ⟨ops, same, eq⟩ := opsFrom_cons at_ opened here more
    rw [eq]
    refine List.pairwise_append.2 ⟨?_, ih _ _, fun o mem o' mem' => ?_⟩
    · exact List.pairwise_of_forall_mem_list fun o mem o' mem' =>
        Nat.le_of_eq ((same o mem).trans (same o' mem').symm)
    · have := (mem_opsFrom o' mem').1
      rw [same o mem]
      omega

theorem grammar_ascends : grammar.Ascends := by
  intro s line ops s' parsed
  cases parsed
  exact ascending_opsFrom _ _ _

theorem grammar_staysWithin : grammar.StaysWithin := by
  intro s line ops s' parsed
  cases parsed
  intro o mem
  have bound := (mem_opsFrom o mem).2
  rw [Nat.zero_add] at bound
  exact bound.trans_eq (length_scopesFrom s line)

end Shell

/-- Each line of a text has one entry.  The spans of an entry make up its line without the newline,
whatever scopes a grammar opens and closes, wherever it fails; from the line that it fails at
every line is one plain span.  Cutting at the bytes a grammar reports never fails. -/
theorem spans_cover_text (g : Grammar) (cuts : g.Cuts) (t : Text) :
    (∀ p line, g.spansInBytes p line = some (g.inCharacters.spans p line)) ∧
    List.Forall₂ CoversLine (g.inCharacters.classifyText t) (Text.lines t) ∧
    (∀ above line below p, Text.lines t = above ++ line :: below →
      g.inCharacters.after (some g.inCharacters.start) above = some p →
      match g.inCharacters.spans p line with
      | some (spans, _) => (g.inCharacters.classifyText t)[above.length]? = some spans
      | none =>
        List.Forall₂ (fun spans line => ∃ body, Text.IsLine body line ∧
            spans = if body = [] then [] else [⟨body, .plain⟩])
          ((g.inCharacters.classifyText t).drop above.length) (line :: below)) ∧
    ∀ line, '\n' ∉ line → Covers (g.inCharacters.classify line) line := by
  refine ⟨cuts.spansInBytes_eq, covers_classifyLines cuts.ascends Text.isLine_of_mem_lines _, ?_,
    fun line free => covers_classify cuts.ascends free⟩
  intro above line below p lines_eq reached
  have entries := classifyText_of_lines_eq lines_eq reached
  have counted := length_classifyLines g.inCharacters (some g.inCharacters.start) above
  rw [entries]
  split
  · next spans q read =>
    rw [List.getElem?_append_right (Nat.le_of_eq counted), counted, Nat.sub_self,
      Grammar.classifyLines, read]
    rfl
  · next unread =>
    rw [← counted, List.drop_left, classifyLines_of_unread unread]
    refine forall₂_plainSpans fun l mem => Text.isLine_of_mem_lines (t := t) l ?_
    exact lines_eq ▸ List.mem_append_right above mem

theorem shell_spans_cover_text :
    Shell.grammar.inBytes.Cuts ∧ Shell.grammar.inBytes.inCharacters = Shell.grammar ∧
      Shell.grammar.classifyText "echo \"a\nü\"".toList =
        [[⟨"echo".toList, .function⟩, ⟨" ".toList, .plain⟩, ⟨"\"a".toList, .string⟩],
          [⟨"ü\"".toList, .string⟩]] ∧
      List.Forall₂ CoversLine (Shell.grammar.classifyText "echo \"a\nü\"".toList)
        ["echo \"a\n".toList, "ü\"".toList] := by
  have cuts := Shell.grammar_ascends.cuts_inBytes
  have same := Shell.grammar_staysWithin.inCharacters_inBytes
  have covers := (spans_cover_text Shell.grammar.inBytes cuts "echo \"a\nü\"".toList).2.1
  rw [same] at covers
  exact ⟨cuts, same, by decide +kernel, covers⟩

example :
    Grammar.classifyText
      { Shell.grammar with
        parse := fun s line => if line = "b\n".toList then none else Shell.grammar.parse s line }
      "echo\nb\n\necho".toList =
      [[⟨"echo".toList, .function⟩], [⟨"b".toList, .plain⟩], [], [⟨"echo".toList, .plain⟩]] := by
  decide +kernel

end Highlight
end ScriptDesk
