import ScriptDesk.Proofs.Listing
import ScriptDesk.Proofs.Spans

namespace ScriptDesk
namespace Text

variable {body line t : Text}

def EndsReturn (line : Text) : Prop := ['\r', '\n'] <:+ line

instance (line : Text) : Decidable (EndsReturn line) :=
  inferInstanceAs (Decidable (['\r', '\n'] <:+ line))

theorem not_endsReturn_of_not_mem (free : '\n' ∉ line) : ¬ EndsReturn line := by
  intro ends
  exact free (ends.subset (by simp))

theorem endsReturn_concat_iff (p : Text) : EndsReturn (p ++ ['\n']) ↔ p.getLast? = some '\r' := by
  rcases List.eq_nil_or_concat' p with rfl | ⟨q, c, rfl⟩
  · decide
  · have split : q ++ [c] ++ ['\n'] = q ++ [c, '\n'] := by simp
    rw [EndsReturn, split, List.getLast?_concat, Option.some_inj]
    constructor
    · rintro ⟨before, same⟩
      have last := (List.append_inj' same rfl).2
      exact (List.cons.inj last).1.symm
    · rintro rfl
      exact List.suffix_append q _

theorem trimNewlines_eq (isLine : IsLine body line) :
    trimNewlines line = bare line ++ if EndsReturn line then ['\r'] else [] := by
  rw [isLine.trimNewlines_eq]
  rcases isLine.ends with rfl | rfl
  · rw [bare_of_not_mem isLine.free, if_neg (not_endsReturn_of_not_mem isLine.free),
      List.append_nil]
  · simp only [bare_concat, withoutReturn, endsReturn_concat_iff]
    split
    · next last => exact (List.dropLast_append_getLast? _ last).symm
    · rw [List.append_nil]

theorem not_mem_bare (isLine : IsLine body line) : '\n' ∉ bare line := by
  intro newline
  refine isLine.free ?_
  rw [← isLine.trimNewlines_eq, trimNewlines_eq isLine]
  exact List.mem_append_left _ newline

theorem return_infix_iff (t : Text) :
    ['\r', '\n'] <:+: t ↔ ∃ line ∈ lines t, EndsReturn line := by
  induction t using lineInduction with
  | last p free =>
    have none : ¬ ['\r', '\n'] <:+: p := fun inside => free (inside.subset (by simp))
    refine iff_of_false none ?_
    rintro ⟨line, mem, ends⟩
    have whole : line ∈ [p] := by
      cases p with
      | nil => cases mem
      | cons c p => rwa [lines_of_not_mem (List.cons_ne_nil c p) free] at mem
    cases List.mem_singleton.1 whole
    exact not_endsReturn_of_not_mem free ends
  | more p t free ih =>
    rw [lines_append free, List.exists_mem_cons_iff, ← ih, endsReturn_concat_iff]
    constructor
    · rintro ⟨a, b, same⟩
      have split : (a ++ ['\r']) ++ '\n' :: b = p ++ '\n' :: t := by simpa using same
      rcases List.append_eq_append_iff.1 split with ⟨m, rfl, rest⟩ | ⟨m, longer, rest⟩
      · cases m with
        | nil => exact .inl (by simp)
        | cons c m =>
          cases rest
          exact absurd (by simp) free
      · cases m with
        | nil =>
          rw [List.append_nil] at longer
          exact .inl (by simp [← longer])
        | cons c m =>
          -- the newline after `p` is not the one looked for, which stands further below
          obtain ⟨rfl, rfl⟩ := List.cons.inj rest
          rcases List.eq_nil_or_concat' m with rfl | ⟨m, d, rfl⟩
          · cases (List.append_inj' longer rfl).2
          · have split : a ++ ['\r'] = (p ++ '\n' :: m) ++ [d] := by simpa using longer
            cases (List.append_inj' split rfl).2
            exact .inr ⟨m, b, by simp⟩
    · rintro (last | ⟨a, b, rfl⟩)
      · obtain ⟨q, rfl⟩ := List.getLast?_eq_some_iff.1 last
        exact ⟨q, t, by simp⟩
      · exact ⟨p ++ '\n' :: a, b, by simp⟩

end Text

namespace Palette

def before (p : Palette) (s : Span) : Text :=
  if s.text.isEmpty then [] else (p.color? s.style).getD []

def after (p : Palette) (s : Span) : Text :=
  if s.text.isEmpty ∨ p.color? s.style = none then [] else reset

theorem paint_eq (p : Palette) (s : Span) :
    p.paint s.style s.text = p.before s ++ s.text ++ p.after s := by
  rw [paint, before, after]
  cases p.color? s.style with
  | none => simp
  | some code => cases s.text <;> simp

end Palette

namespace Render

open Text (EndsReturn)

def view (shown : Span → Text) (s : Session) (lines : List (List Span)) (p : Palette) : Text :=
  headline s ++ numbered p (gutterWidth s.working) 1 (lines.map fun spans => spans.flatMap shown)

def uncoloured (s : Session) (lines : List (List Span)) (p : Palette) : Text :=
  view (·.text) s lines p

theorem highlighted_eq_view (s : Session) (lines : List (List Span)) (p : Palette) :
    highlighted s lines p = view (fun x => p.before x ++ x.text ++ p.after x) s lines p := by
  simp only [highlighted, view, ← Palette.paint_eq]
  rfl

theorem numbered_inj {p : Palette} {width n : Nat} {rows rows' : List Text}
    (free : ∀ row ∈ rows, '\n' ∉ row) (free' : ∀ row ∈ rows', '\n' ∉ row)
    (same : numbered p width n rows = numbered p width n rows') : rows = rows' := by
  induction rows generalizing n rows' with
  | nil =>
    cases rows' with
    | nil => rfl
    | cons row' rows' => simp [numbered] at same
  | cons row rows ih =>
    cases rows' with
    | nil => simp [numbered] at same
    | cons row' rows' =>
      obtain ⟨here, others⟩ := List.forall_mem_cons.1 free
      obtain ⟨here', others'⟩ := List.forall_mem_cons.1 free'
      simp only [numbered, List.append_assoc, List.append_cancel_left_eq] at same
      have pieces := congrArg Text.pieces same
      rw [Text.pieces_cons here, Text.pieces_cons here'] at pieces
      obtain ⟨row, rest⟩ := List.cons.inj pieces
      have below := congrArg Text.joined rest
      rw [Text.joined_pieces, Text.joined_pieces] at below
      rw [row, ih others others' below]

theorem rows_of_covers {entries : List (List Span)} {lines : List Text}
    (covers : List.Forall₂ Highlight.CoversLine entries lines) :
    (entries.map fun spans => spans.flatMap (·.text)) = lines.map Text.trimNewlines := by
  induction covers with
  | nil => rfl
  | cons here _ ih =>
    obtain ⟨body, isLine, covers⟩ := here
    rw [List.map_cons, List.map_cons, ih, covers.whole, isLine.trimNewlines_eq]

/-- A listing in colours, less the codes around its spans, has the headline and, row by row, the
gutter and the text of the plain listing, and behind that the carriage return of a line that ends in
one and a newline.  So both show the same text just when no newline has a carriage return before
it. -/
theorem highlighted_shows_listing (g : Highlight.Grammar) (cuts : g.Cuts) (s : Session)
    (p : Palette) :
    let lines := g.inCharacters.classifyText s.working
    highlighted s lines p = view (fun x => p.before x ++ x.text ++ p.after x) s lines p ∧
    listing s p = headline s ++
      numbered p (gutterWidth s.working) 1 ((Text.lines s.working).map Text.bare) ∧
    uncoloured s lines p = headline s ++
      numbered p (gutterWidth s.working) 1 ((Text.lines s.working).map fun line =>
        Text.bare line ++ if EndsReturn line then ['\r'] else []) ∧
    (uncoloured s lines p = listing s p ↔ ¬ ['\r', '\n'] <:+: s.working) := by
  intro lines
  have covers : List.Forall₂ Highlight.CoversLine lines (Text.lines s.working) :=
    Highlight.covers_classifyLines cuts.ascends Text.isLine_of_mem_lines _
  have rows : ((Text.lines s.working).map Text.trimNewlines) =
      (Text.lines s.working).map fun line =>
        Text.bare line ++ if EndsReturn line then ['\r'] else [] := by
    refine List.map_congr_left fun line mem => ?_
    obtain ⟨body, isLine⟩ := Text.isLine_of_mem_lines line mem
    exact Text.trimNewlines_eq isLine
  have bare : uncoloured s lines p = headline s ++ numbered p (gutterWidth s.working) 1
      ((Text.lines s.working).map Text.trimNewlines) := by
    rw [uncoloured, view, rows_of_covers covers]
  refine ⟨highlighted_eq_view s lines p, rfl, rows ▸ bare, ?_⟩
  have free : ∀ row ∈ (Text.lines s.working).map Text.trimNewlines, '\n' ∉ row := by
    refine List.forall_mem_map.2 fun line mem => ?_
    obtain ⟨body, isLine⟩ := Text.isLine_of_mem_lines line mem
    exact isLine.trimNewlines_eq ▸ isLine.free
  have free' : ∀ row ∈ (Text.lines s.working).map Text.bare, '\n' ∉ row := by
    refine List.forall_mem_map.2 fun line mem => ?_
    obtain ⟨body, isLine⟩ := Text.isLine_of_mem_lines line mem
    exact Text.not_mem_bare isLine
  calc
    uncoloured s lines p = listing s p
      ↔ (Text.lines s.working).map Text.trimNewlines = (Text.lines s.working).map Text.bare := by
        rw [bare, listing, Text.rows, List.append_cancel_left_eq]
        exact ⟨numbered_inj free free', fun same => by rw [same]⟩
    _ ↔ ∀ line ∈ Text.lines s.working, ¬ EndsReturn line := by
        rw [rows, List.map_inj_left]
        simp
    _ ↔ ¬ ['\r', '\n'] <:+: s.working := by
        rw [Text.return_infix_iff]
        simp

theorem lone_returns_shown_alike :
    let s : Session := ⟨1, "a.sh".toList, [], "echo \r\"ü\n\nfi\r".toList, false, 0⟩
    Highlight.Shell.grammar.inBytes.Cuts ∧
      Highlight.Shell.grammar.inBytes.inCharacters = Highlight.Shell.grammar ∧
      uncoloured s (Highlight.Shell.grammar.classifyText s.working) (.ofTheme .dark) =
        listing s (.ofTheme .dark) := by
  intro s
  have cuts := Highlight.Shell.grammar_ascends.cuts_inBytes
  have same := Highlight.Shell.grammar_staysWithin.inCharacters_inBytes
  have shows := (highlighted_shows_listing Highlight.Shell.grammar.inBytes cuts s
    (.ofTheme .dark)).2.2.2
  rw [same] at shows
  exact ⟨cuts, same, shows.2 (by decide)⟩

/-- A file whose lines end in a carriage return and a newline is listed without these returns, but
they stay when it is listed in colours. -/
theorem highlighted_keeps_return :
    let s : Session := ⟨1, "a.sh".toList, "a\r\n".toList, "a\r\n".toList, false, 0⟩
    let lines := Highlight.Shell.grammar.classifyText s.working
    listing s (.ofTheme .light) =
        "-- a.sh --\n\x1b[38;2;100;100;100m1 \x1b[0ma\n".toList ∧
      uncoloured s lines (.ofTheme .light) =
        "-- a.sh --\n\x1b[38;2;100;100;100m1 \x1b[0ma\r\n".toList ∧
      uncoloured s lines (.ofTheme .light) ≠ listing s (.ofTheme .light) := by
  decide +kernel

end Render
end ScriptDesk
