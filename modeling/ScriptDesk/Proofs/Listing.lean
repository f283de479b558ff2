import ScriptDesk.Proofs.Answer
import ScriptDesk.Proofs.LineEdits
import ScriptDesk.Proofs.Messages

namespace ScriptDesk
namespace Text

variable {t line : Text} {above below : List Text}

/-- A piece as it is shown above a newline: a carriage return at its end is left out. -/
def withoutReturn (p : Text) : Text := if p.getLast? = some '\r' then p.dropLast else p

theorem bare_concat (p : Text) : bare (p ++ ['\n']) = withoutReturn p := by
  rcases List.eq_nil_or_concat p with rfl | ⟨q, c, rfl⟩
  · rfl
  · by_cases return_ : c = '\r'
    · simp [bare, withoutReturn, return_]
    · simp [bare, withoutReturn, return_]

theorem rows_of_not_mem (free : '\n' ∉ line) : rows line = if line = [] then [] else [line] := by
  cases line with
  | nil => rfl
  | cons c line =>
    rw [if_neg (List.cons_ne_nil c line), rows, lines_of_not_mem (List.cons_ne_nil c line) free,
      List.map_singleton, bare_of_not_mem free]

theorem rows_append (free : '\n' ∉ line) (t : Text) :
    rows (line ++ '\n' :: t) = withoutReturn line :: rows t := by
  rw [rows, lines_append free, List.map_cons, bare_concat, rows]

theorem length_rows (t : Text) :
    (rows t).length = lineCount t - (if t.isEmpty || t.endsLine then 1 else 0) := by
  have count := congrArg List.length (map_trim_pieces t)
  rw [List.length_append, List.length_map, List.length_map, length_pieces] at count
  split
  · next ended =>
    rw [if_pos ended] at count
    exact Nat.eq_sub_of_add_eq count.symm
  · next unended =>
    rw [if_neg unended] at count
    exact count.symm

theorem exists_line_of_row {i : Nat} {row : Text} (shown : (rows t)[i]? = some row) :
    ∃ above line below, pieces t = above ++ line :: below ∧ above.length = i ∧
      row = if below = [] then line else withoutReturn line := by
  induction t using lineInduction generalizing i with
  | last p free =>
    rw [rows_of_not_mem free] at shown
    split at shown
    · cases shown
    · rw [List.getElem?_singleton] at shown
      split at shown
      · next first =>
        cases shown
        exact ⟨[], row, [], pieces_of_not_mem free, first.symm, rfl⟩
      · cases shown
  | more p t free ih =>
    rw [rows_append free] at shown
    cases i with
    | zero =>
      cases shown
      exact ⟨[], p, pieces t, pieces_cons free t, rfl, (if_neg (splitOn_ne_nil '\n' t)).symm⟩
    | succ i =>
      obtain ⟨above, line, below, split, rfl, row⟩ := ih shown
      exact ⟨p :: above, line, below, by rw [pieces_cons free, split]; rfl, rfl, row⟩

theorem length_ofNat_le {m n : Nat} (h : m ≤ n) : (ofNat m).length ≤ (ofNat n).length := by
  have bound (k : Nat) : (ofNat k).length ≤ (ofNat n).length ↔ k < 10 ^ (ofNat n).length :=
    Nat.length_toDigits_le_iff (by decide) Nat.length_toDigits_pos
  exact (bound m).2 (Nat.lt_of_le_of_lt h ((bound n).1 (Nat.le_refl _)))

end Text

namespace Render

theorem gutter_eq (p : Palette) (width n : Nat) :
    gutter p width n = Palette.sequence p.gutter ++
      List.replicate (width - (Text.ofNat n).length) ' ' ++ Text.ofNat n ++ [' '] ++
      Palette.reset := by
  simp [gutter, Palette.dim, Text.padLeft, Text.spaces]

theorem numbered_eq_flatten (p : Palette) (width n : Nat) (rows : List Text) :
    numbered p width n rows =
      (rows.mapIdx fun i row => gutter p width (n + i) ++ row ++ ['\n']).flatten := by
  induction rows generalizing n with
  | nil => rfl
  | cons row rows ih =>
    rw [numbered, ih, List.mapIdx_cons, List.flatten_cons]
    simp [Nat.add_comm, Nat.add_left_comm]

end Render

namespace Bench

/-- A message is taken: the answer is the title of a session that is current from then on. -/
def Takes (b : Bench) (m : Message) (s : Session) : Prop :=
  ∀ id, (b.step (.start id (.message m))).1 = .reply (.ok (.text (Render.title s))) ∧
    (b.step (.start id (.message m))).2.currentSession? = some s

theorem currentSession?_of_edit {w : Workspace} {s : Session} (current : w.currentSession? = some s)
    (text : Text) : (w.modify s.path (Session.edit text)).currentSession? = some (s.edit text) := by
  obtain ⟨path, opened⟩ := Workspace.currentSession?_eq_some.1 current
  have stays : ∀ s' : Session, s'.path = s.path → (s'.edit text).path = s.path := fun _ same => same
  refine Workspace.currentSession?_eq_some.2 ⟨path, ?_⟩
  rw [Workspace.session?_modify w stays, Session.path_edit, if_pos rfl, opened]
  rfl

theorem takes_of_plan {b : Bench} {s : Session} {m : Message} {text : Text}
    (current : b.currentSession? = some s) (planned : b.desk.plan m = .act (.edit text) .title) :
    b.Takes m (s.edit text) := by
  intro id
  have asked : b.asked? (.start id (.message m)) = some (.edit text) := by
    simp only [asked?, Desk.act?, planned]
  have here : b.desk.workspace.currentSession? = some s := current
  have begun : b.desk.begin (.edit text) = b.desk.within
      (.done (.ok (.session (s.edit text))),
        b.desk.workspace.modify s.path (Session.edit text)) := by
    simp only [Desk.begin, Workspace.edit, here]
  constructor
  · obtain ⟨id', job, event, answer⟩ := answers_of_done asked (congrArg Prod.fst begun) rfl
    cases event
    rw [answer]
    simp only [Desk.report?, planned]
    rfl
  · have after := (step_of_asked asked).1
    rw [begun] at after
    calc
      (b.step (.start id (.message m))).2.currentSession?
        = (b.step (.start id (.message m))).2.desk.flushed.workspace.currentSession? := rfl
      _ = (b.desk.workspace.modify s.path (Session.edit text)).currentSession? := by rw [after]; rfl
      _ = some (s.edit text) := currentSession?_of_edit here text

theorem takes_setLine {b : Bench} {s : Session} (current : b.currentSession? = some s) {n : Nat}
    {new text : Text} (replaced : Text.replaceLine s.working n new = some text) :
    b.Takes (.setLine n new) (s.edit text) := by
  have here : b.desk.workspace.currentSession? = some s := current
  refine takes_of_plan current ?_
  simp only [Desk.plan, Desk.planEdit, here, replaced, Desk.orNoLine]

theorem takes_deleteLine {b : Bench} {s : Session} (current : b.currentSession? = some s) {n : Nat}
    {text : Text} (deleted : Text.deleteLine s.working n = some text) :
    b.Takes (.deleteLine n) (s.edit text) := by
  have here : b.desk.workspace.currentSession? = some s := current
  refine takes_of_plan current ?_
  simp only [Desk.plan, Desk.planEdit, here, deleted, Desk.orNoLine]

end Bench

/-- The line of a session that goes by a number: a message with that number sets or deletes this
piece and no other. -/
structure Session.EditedLine (s : Session) (n : Nat) (above : List Text) (line : Text)
    (below : List Text) : Prop where
  split : Text.pieces s.working = above ++ line :: below
  number : above.length + 1 = n
  set : ∀ new, ∃ text, Text.replaceLine s.working n new = some text ∧
    Text.pieces text = above ++ Text.pieces new ++ below ∧
    ∀ b : Bench, b.currentSession? = some s → b.Takes (.setLine n new) (s.edit text)
  delete : ∃ text, Text.deleteLine s.working n = some text ∧
    Text.pieces text = (if above ++ below = [] then [[]] else above ++ below) ∧
    ∀ b : Bench, b.currentSession? = some s → b.Takes (.deleteLine n) (s.edit text)

theorem Session.editedLine_of_pieces {s : Session} {above below : List Text} {line : Text}
    (split : Text.pieces s.working = above ++ line :: below) :
    s.EditedLine (above.length + 1) above line below where
  split := split
  number := rfl
  set new := by
    have edited := Text.pieces_replaceLine split new
    obtain ⟨text, replaced, pieces⟩ := Option.map_eq_some_iff.1 edited
    exact ⟨text, replaced, pieces, fun _ current => Bench.takes_setLine current replaced⟩
  delete := by
    obtain ⟨text, deleted, pieces⟩ := Option.map_eq_some_iff.1 (Text.pieces_deleteLine split)
    exact ⟨text, deleted, pieces, fun _ current => Bench.takes_deleteLine current deleted⟩

namespace Message

theorem read_setLine {n : Nat} {new : Text} (number : IsLineNumber n) (kept : new.Unended) :
    read (":set ".toList ++ Text.ofNat n ++ ' ' :: new) = .ok (.setLine n new) := by
  rw [List.append_assoc]
  exact (read_word .setLine (Text.unended_append_space.2 kept)).trans (ofVerb_setLine number new)

theorem read_deleteLine {n : Nat} (number : IsLineNumber n) :
    read (":delete ".toList ++ Text.ofNat n) = .ok (.deleteLine n) :=
  (read_word .deleteLine (Text.neat_ofNat n).unended).trans
    (ofVerb_of_spelling? (m := .deleteLine n) number rfl)

end Message

namespace Render

/-- A listing numbers its rows from 1, one for each line the edits count but for an empty one at
the end.  The row with a number shows the line that goes by it, without a carriage return before a
newline.  Its number fits into the gutter and, being a number of 64 bits, sets and deletes that line
when it is typed as it is shown. -/
theorem listing_numbers_edited_lines (s : Session) (p : Palette) :
    let width := (Text.ofNat (Text.lineCount s.working)).length
    listing s p = headline s ++ ((Text.rows s.working).mapIdx fun i row =>
      Palette.sequence p.gutter ++
        List.replicate (width - (Text.ofNat (i + 1)).length) ' ' ++ Text.ofNat (i + 1) ++ [' '] ++
        Palette.reset ++ row ++ ['\n']).flatten ∧
    (Text.rows s.working).length =
      Text.lineCount s.working - (if s.working.isEmpty || s.working.endsLine then 1 else 0) ∧
    ∀ i row, (Text.rows s.working)[i]? = some row →
      (Text.ofNat (i + 1)).length ≤ width ∧
      ∃ above line below, s.EditedLine (i + 1) above line below ∧
        row = (if below = [] then line else Text.withoutReturn line) ∧
        (i + 1 < UInt64.size →
          (∀ new, Text.Unended new →
            Message.read (":set ".toList ++ Text.ofNat (i + 1) ++ ' ' :: new) =
              .ok (.setLine (i + 1) new)) ∧
          Message.read (":delete ".toList ++ Text.ofNat (i + 1)) = .ok (.deleteLine (i + 1))) := by
  intro width
  refine ⟨?_, Text.length_rows s.working, fun i row shown => ?_⟩
  · rw [listing, numbered_eq_flatten]
    simp only [Nat.add_comm 1, gutter_eq]
    rfl
  · obtain ⟨above, line, below, split, rfl, shows⟩ := Text.exists_line_of_row shown
    have inside : above.length + 1 ≤ Text.lineCount s.working := by
      rw [← Text.length_pieces, split, List.length_append, List.length_cons]
      omega
    refine ⟨Text.length_ofNat_le inside, above, line, below, Session.editedLine_of_pieces split,
      shows, fun small => ?_⟩
    have number : Message.IsLineNumber (above.length + 1) := ⟨Nat.succ_pos _, small⟩
    exact ⟨fun new kept => Message.read_setLine number kept, Message.read_deleteLine number⟩

theorem shown_line_is_set :
    let text := "é\r\n\nb\r".toList
    let b := (Setup.ofFiles [(['a'], text)]).bench.run
      [.start 0 (.act (.openFile ['a'])), .finish 0]
    let s : Session := ⟨1, ['a'], text, text, false, 0⟩
    b.currentSession? = some s ∧
      listing s (.ofTheme .bashLight) =
        ("-- a --\n\x1b[90m1 \x1b[0mé\n\x1b[90m2 \x1b[0m\n" ++
          "\x1b[90m3 \x1b[0mb\r\n").toList ∧
      (Text.rows s.working)[0]? = some ['é'] ∧
      0 + 1 < UInt64.size ∧ Text.Unended ['x'] ∧
      Message.read ":set 1 x".toList = .ok (.setLine 1 ['x']) ∧
      b.Takes (.setLine 1 ['x']) (s.edit "x\n\nb\r".toList) := by
  intro text b s
  have current : b.currentSession? = some s := by decide
  have shown : (Text.rows s.working)[0]? = some ['é'] := by decide
  have small : 0 + 1 < UInt64.size := by decide
  have kept : Text.Unended ['x'] := by simp [Text.Unended]
  obtain ⟨listed, -, rows⟩ := listing_numbers_edited_lines s (.ofTheme .bashLight)
  obtain ⟨-, above, line, below, edited, -, typed⟩ := rows 0 ['é'] shown
  obtain ⟨written, replaced, -, takes⟩ := edited.set ['x']
  have result : Text.replaceLine s.working (0 + 1) ['x'] = some "x\n\nb\r".toList := by decide
  cases replaced.symm.trans result
  exact ⟨current, listed.trans (by decide), shown, small, kept, (typed small).1 ['x'] kept,
    takes b current⟩

end Render
end ScriptDesk
