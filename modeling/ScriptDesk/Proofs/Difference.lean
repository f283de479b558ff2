import ScriptDesk.Conflict
import ScriptDesk.Proofs.Hunks
import ScriptDesk.Proofs.Printed

namespace ScriptDesk

namespace Diff

open Patch (Fresh readRows)

variable {a b : List Text} {t : Text}

theorem line_mem_of_rows {h : Hunk} : ∀ x ∈ Hunk.rows a b h, x.line ∈ a ∨ x.line ∈ b := by
  intro x mem
  obtain ⟨r, -, mem⟩ := List.mem_flatMap.1 mem
  have sub {lines : List Text} {i len : Nat} {l : Text} (inside : l ∈ slice lines i len) :
      l ∈ lines := List.mem_of_mem_drop (List.mem_of_mem_take inside)
  rw [Region.rows] at mem
  split at mem
  · obtain ⟨l, inside, rfl⟩ := List.mem_map.1 mem
    exact .inl (sub inside)
  · obtain deleted | inserted := List.mem_append.1 mem
    · obtain ⟨l, inside, rfl⟩ := List.mem_map.1 deleted
      exact .inl (sub inside)
    · obtain ⟨l, inside, rfl⟩ := List.mem_map.1 inserted
      exact .inr (sub inside)

theorem print_hunk (a b : List Text) (h : Hunk) :
    Hunk.print a b h = Patch.rangeLine (Hunk.oldExtent h) (Hunk.newExtent h) ++ ['\n'] ++
      (Hunk.rows a b h).flatMap Row.print := by
  unfold Hunk.print Patch.rangeLine
  simp

theorem fresh_hunks (hs : List Hunk) : Fresh (hs.flatMap (Hunk.print a b)) := by
  cases hs with
  | nil => exact nofun
  | cons h hs =>
    rintro _ ⟨⟩
    decide

theorem readRows_hunks (oldLines : ∀ l ∈ a, Line l) (newLines : ∀ l ∈ b, Line l) (hs : List Hunk) :
    readRows (hs.flatMap (Hunk.print a b)) = some ([], hs.map (Hunk.patch a b)) := by
  induction hs with
  | nil => rfl
  | cons h hs ih =>
    have each : ∀ x ∈ Hunk.rows a b h, Line x.line := fun x mem =>
      (line_mem_of_rows x mem).elim (oldLines _) (newLines _)
    have below := fresh_hunks (a := a) (b := b) hs
    rw [List.flatMap_cons, print_hunk, List.append_assoc,
      Patch.readRows_rangeLine _ _ (Patch.fresh_rows below _), Patch.readRows_rows below _ each, ih]
    simp [Hunk.patch]

theorem lines_header (fresh : Fresh t) :
    lines (header ++ t) = "--- yours\n".toList :: "+++ on disk\n".toList :: lines t := by
  have yours : Unbroken "--- yours".toList := by decide
  have disk : Unbroken "+++ on disk".toList := by decide
  have second : lines ("+++ on disk".toList ++ ['\n'] ++ t) = _ :: lines t :=
    lines_append disk .newline fun c mem => (fresh c mem).1
  have first : lines ("--- yours".toList ++ ['\n'] ++ ("+++ on disk".toList ++ ['\n'] ++ t)) =
      _ :: lines _ := lines_append yours .newline (by rintro _ ⟨⟩; decide)
  rw [second] at first
  exact first

theorem read_unified (working disk : Text) :
    Patch.read (unified working disk) =
      some ((hunks context (edits (lines working) (lines disk))).map
        (Hunk.patch (lines working) (lines disk))) := by
  rw [unified]
  cases hunks context (edits (lines working) (lines disk)) with
  | nil => rfl
  | cons h hs =>
    have rows := readRows_hunks (line_of_mem_lines working) (line_of_mem_lines disk) (h :: hs)
    rw [readRows] at rows
    simp only [Patch.read, lines_header (fresh_hunks (h :: hs)), rows, and_self, if_true]

theorem unified_eq_nil_iff (working disk : Text) :
    unified working disk = [] ↔ hunks context (edits (lines working) (lines disk)) = [] := by
  rw [unified]
  cases hunks context (edits (lines working) (lines disk)) with
  | nil => simp
  | cons h hs =>
    have given : header ++ (h :: hs).flatMap (Hunk.print (lines working) (lines disk)) ≠ [] :=
      List.append_ne_nil_of_left_ne_nil (by decide) _
    exact iff_of_false given (List.cons_ne_nil h hs)

theorem commonPrefix_self (a : List Text) : commonPrefix a a = a.length := by
  induction a with
  | nil => rfl
  | cons l a ih => simp [commonPrefix, ih]

theorem script_self (depth : Nat) (a : List Text) :
    script depth a a 0 0 = run .keep 0 0 a.length := by
  rw [script.eq_def]
  simp [commonPrefix_self, commonSuffix, run]

theorem settle_of_none (a b : List Text) {kind : Kind} (steps : Nat) {before after : List Edit}
    (none : ∀ e ∈ after, e.kind ≠ kind) :
    settle a b kind steps before after = before.reverse ++ after := by
  fun_induction settle a b kind steps before after with
  | case1 => rfl
  | case2 => exact (List.append_nil _).symm
  | case3 steps before e after same => exact absurd same (none e List.mem_cons_self)
  | case4 steps before e after other ih =>
    rw [ih fun x mem => none x (List.mem_cons_of_mem e mem), List.reverse_cons, List.append_assoc]
    rfl

theorem edits_self (a : List Text) : edits a a = run .keep 0 0 a.length := by
  have still {kind : Kind} (change : kind ≠ .keep) (steps : Nat) :
      settle a a kind steps [] (run .keep 0 0 a.length) = run .keep 0 0 a.length := by
    refine settle_of_none a a steps fun e mem => ?_
    rw [run] at mem
    split at mem
    · cases mem
    · obtain rfl := List.mem_singleton.1 mem
      exact change.symm
  rw [edits, shortest, script_self, compact, still (by decide), still (by decide)]

theorem cutHunks_short {r : Region} {n : Nat} (same : r.same = true) (short : r.oldLen ≤ 2 * n) :
    cutHunks n [] [r] = [] := by
  simp [cutHunks, same, Nat.not_lt.2 short]

theorem hunks_self (a : List Text) : hunks context (edits a a) = [] := by
  rw [edits_self, run]
  split
  · rfl
  · -- there is one region, and trimmed at both ends it is too short to be cut
    have short (r : Region) : (r.firstLines context).oldLen ≤ 2 * context := by
      dsimp only [Region.firstLines, context]
      omega
    exact cutHunks_short rfl (short (Region.lastLines context ⟨true, 0, a.length, 0, a.length⟩))

end Diff

/-- The diff of a conflict is empty just when the texts are equal, and it is read as hunks that turn
the lines of the working text into those on disk: outside the hunks the lines are equal, and the
kept and deleted rows of each are the lines of the working text at the place that its header
gives. -/
theorem Conflict.diff_turns (c : Conflict) (working : Text) :
    (c.diff working = [] ↔ working = c.disk) ∧
    ∃ hs, Patch.read (c.diff working) = some hs ∧
      Patch.Turns Patch.Hunk.Placed 0 0 hs (Diff.lines working) (Diff.lines c.disk) := by
  have turns := Diff.turns_hunks (n := Diff.context) (by decide)
    (Diff.kept_compact (Diff.lines working) (Diff.lines c.disk))
  refine ⟨?_, _, Diff.read_unified working c.disk, turns⟩
  rw [Conflict.diff, Diff.unified_eq_nil_iff]
  constructor
  · intro none
    rw [Diff.edits] at none
    rw [none] at turns
    have equal := turns.eq_of_nil
    rw [← Diff.flatten_lines working, equal, Diff.flatten_lines]
  · intro equal
    rw [equal]
    exact Diff.hunks_self _

/-- A line that is deleted above two equal ones: the header tells of one line on either side, the
second one in the new text, but the hunk starts at the top and has two lines of both. -/
theorem header_misplaced :
    let working := "a\nb\n".toList
    let c : Conflict := ⟨"a.sh".toList, 1, "b\nb\n".toList, 0⟩
    c.diff working = "--- yours\n+++ on disk\n@@ -1 +2 @@\n-a\n b\n+b\n".toList ∧
    ¬ ∃ hs, Patch.read (c.diff working) = some hs ∧
      Patch.Turns Patch.Hunk.Exact 0 0 hs (Diff.lines working) (Diff.lines c.disk) := by
  intro working c
  have printed : c.diff working =
      "--- yours\n+++ on disk\n@@ -1 +2 @@\n-a\n b\n+b\n".toList := by
    decide +kernel
  have hunk : Patch.read (c.diff working) = some [⟨⟨0, 1⟩, ⟨1, 1⟩,
      [.deleted "a\n".toList, .kept "b\n".toList, .inserted "b\n".toList]⟩] := by
    rw [printed]
    decide +kernel
  refine ⟨printed, ?_⟩
  rintro ⟨hs, read, turns⟩
  obtain rfl := Option.some.inj (hunk.symm.trans read)
  obtain ⟨gap, old, -⟩ := turns.placed_head
  have length (old new : Patch.Range) (k l m : Text) :
      (Patch.Hunk.mk old new [.deleted k, .kept l, .inserted m]).oldLines.length = 2 := rfl
  rw [length] at old
  cases congrArg Patch.Range.len old

end ScriptDesk
