import ScriptDesk.Proofs.Effect
import ScriptDesk.Proofs.Watch

namespace ScriptDesk
namespace Bench

/-- Whether an event is free to change the working text of a session: an edit of the current file,
its removal, or the reload of a conflict that was found for it. -/
def mayOverwrite (b : Bench) (e : Event) (s : Session) : Bool :=
  match b.asked? e with
  | some (.remove path) => path == s.path
  | some (.resolve .reloadTheirs) =>
    b.conflict?.any fun c =>
      c.path == s.path && c.session == s.id && c.revision == s.revision
  | some a => a.edits && b.current? == some s.path
  | none => false

theorem mayOverwrite_of_edits {b : Bench} {e : Event} {a : Act} {s : Session}
    (asked : b.asked? e = some a) (edits : a.edits = true) (current : b.current? = some s.path) :
    b.mayOverwrite e s = true := by
  cases a <;> simp_all [mayOverwrite, Act.edits]

/-- A step that is not free to overwrite a session keeps its unsaved text, and puts in the place
of a saved one only what is on disk. -/
theorem unsaved_edits_survive (u : Setup) (es : List Event) (e : Event) {path : Text} {s : Session}
    (opened : (u.bench.run es).session? path = some s)
    (kept : (u.bench.run es).mayOverwrite e s = false) :
    (s.dirty = true → ∃ s', ((u.bench.run es).step e).2.session? path = some s' ∧
      s'.id = s.id ∧ s'.working = s.working) ∧
    (s.dirty = false → ∀ s', ((u.bench.run es).step e).2.session? path = some s' →
      s'.working ≠ s.working →
        s'.baseline = s'.working ∧
          ((u.bench.run es).step e).2.disk.contents path = some s'.working) := by
  generalize u.bench.run es = b at opened kept
  have here := Workspace.path_of_session? opened
  rw [session?_step, opened]
  have cause := b.cause e path
  generalize b.effect e path = effect at cause
  -- what is read replaces the texts of a clean session only, and replaces both
  have taken {t : BenchTask} {p text : Text} (clean : s.dirty = false)
      (finished : b.finished? e = some t) (reads : t.pending.access = .read p)
      (read : b.disk.read p = .ok text) (same : p = path) :
      (s.dirty = true → ∃ s', some (s.reset text) = some s' ∧ s'.id = s.id ∧
        s'.working = s.working) ∧
      (s.dirty = false → ∀ s', some (s.reset text) = some s' → s'.working ≠ s.working →
        s'.baseline = s'.working ∧ (b.step e).2.disk.contents path = some s'.working) := by
    refine ⟨fun dirty => by simp [clean] at dirty, ?_⟩
    rintro - s' ⟨rfl⟩ -
    rw [disk_step_of_read finished reads, ← same]
    exact ⟨rfl, Disk.contents_of_read read⟩
  cases cause with
  | keep => simp [Effect.apply]
  | load finished pending read closed => simp [opened] at closed
  | refresh finished pending read opened' free =>
    rw [opened] at opened'
    cases opened'
    simp only [Session.held, Bool.or_eq_false_iff] at free
    exact taken free.1 finished (by rw [pending]) read rfl
  | adopt finished pending read judged =>
    obtain ⟨same, s₀, fits, clean⟩ := Watch.judge_eq_adopted judged
    cases opened.symm.trans (same ▸ fits.opened)
    exact taken clean finished (by rw [pending]) read same.symm
  | edit asked edits current =>
    rw [mayOverwrite_of_edits asked edits (here ▸ current)] at kept
    cases kept
  | beginSave asked saves => simp [Effect.apply]
  | written finished pending write => simp [Effect.apply, Session.finishSave, Session.setBaseline]
  | unwritten finished pending write => simp [Effect.apply, Session.finishSave]
  | @settle r c s₀ asked conflict same opened' id revision =>
    rw [opened] at opened'
    cases opened'
    cases r with
    | keepMine => simp [Effect.apply, Watch.settle, Session.setBaseline]
    | reloadTheirs => simp [mayOverwrite, asked, conflict, same, here, id, revision] at kept
  | remove asked => simp [mayOverwrite, asked, here] at kept

theorem edit_during_reopening_survives :
    let b := (Setup.ofFiles [(['a'], ['x'])]).bench.run
      [.start 0 (.act (.openFile ['a'])), .finish 0, .start 1 (.act (.openFile ['a'])),
        .start 2 (.act (.edit ['y']))]
    (b.session? ['a']).map Session.dirty = some true ∧
      ∃ s', (b.step (.finish 1)).2.session? ['a'] = some s' ∧ s'.id = 1 ∧ s'.working = ['y'] := by
  have opened : ((Setup.ofFiles [(['a'], ['x'])]).bench.run
      [.start 0 (.act (.openFile ['a'])), .finish 0, .start 1 (.act (.openFile ['a'])),
        .start 2 (.act (.edit ['y']))]).session? ['a'] =
      some ⟨1, ['a'], ['x'], ['y'], false, 0⟩ := by decide
  refine ⟨by rw [opened]; rfl, ?_⟩
  exact (unsaved_edits_survive _ _ (.finish 1) opened rfl).1 rfl

end Bench
end ScriptDesk
