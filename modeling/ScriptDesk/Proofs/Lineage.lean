import ScriptDesk.Proofs.Effect
import ScriptDesk.Proofs.Watch

/-! What becomes of a session over a run.  It keeps its id while it is loaded, an id is never given
again, and the revision counts how often the baseline was replaced.  The generation counts how
often the current path changed. -/

namespace ScriptDesk
namespace Desk

inductive Changes (d : Desk) (a : Act) (w : Workspace) : Prop
  | opens (opens : d.workspace.Opens w)
  | touches (touches : d.workspace.Touches w)
  | removes {path : Text} (asked : a = .remove path) (removed : w = d.workspace.remove path)
  | remembers {t : Theme}
      (remembered : w = d.workspace.remember (some (d.workspace.settings.setTheme t)))

theorem changes (d : Desk) (a : Act) : d.Changes a (d.begin a).2.workspace := by
  cases a with
  | openFile path => exact .opens (d.workspace.shows_openFile path).opens
  | select path => exact .opens (d.workspace.opens_select path)
  | restore => exact .opens d.workspace.shows_restore.opens
  | save => exact .touches d.workspace.touches_save
  | savePath path => exact .touches (d.workspace.touches_savePath path)
  | check =>
    rw [begin, check_snd]
    exact .touches d.workspace.touches_self
  | focus now =>
    rw [workspace_begin_focus]
    exact .touches d.workspace.touches_self
  | remove path => exact .removes rfl rfl
  | edit text => exact .touches (d.workspace.touches_edit text)
  | format => exact .touches d.workspace.touches_format
  | resolve r => exact .touches (Watch.touches_resolve r d.workspace d.watch)
  | setTheme t => exact .remembers rfl
  | shutDown => exact .touches d.workspace.touches_self

theorem turned_begin (d : Desk) (a : Act) : d.workspace.Turned (d.begin a).2.workspace := by
  cases d.changes a with
  | opens opens => exact opens.turned
  | touches touches => exact touches.turned
  | removes asked removed => exact removed ▸ d.workspace.turned_remove _
  | remembers remembered => exact remembered ▸ .of_eq rfl rfl

theorem turned_land (d : Desk) (pending : Pending) (result : pending.access.Result) :
    d.workspace.Turned (d.land pending result).2.workspace := by
  cases pending with
  | opening path => exact d.workspace.turned_landOpening path result
  | saving path text => exact (d.workspace.touches_landSaving path text result).turned
  | checking ticket => exact (Watch.touches_land ticket result d.workspace d.watch).turned

theorem nextId_begin (d : Desk) (a : Act) :
    (d.begin a).2.workspace.nextId = d.workspace.nextId := by
  cases d.changes a with
  | opens opens => exact opens.nextId
  | touches touches => exact touches.nextId
  | removes asked removed => rw [removed, Workspace.nextId_remove]
  | remembers remembered => rw [remembered, Workspace.nextId_remember]

theorem nextId_landOpening (d : Desk) (path content : Text) :
    (d.land (.opening path) (.ok content)).2.workspace.nextId =
      if (d.workspace.session? path).isSome then d.workspace.nextId
      else d.workspace.nextId + 1 := by
  simp only [land, within, Workspace.landOpening, Workspace.nextId_makeCurrent,
    Workspace.nextId_receive]

theorem nextId_le_land (d : Desk) (pending : Pending) (result : pending.access.Result) :
    d.workspace.nextId ≤ (d.land pending result).2.workspace.nextId := by
  cases pending with
  | opening path =>
    cases result with
    | error e => exact Nat.le_refl _
    | ok content =>
      rw [nextId_landOpening]
      split <;> omega
  | saving path text =>
    exact Nat.le_of_eq (d.workspace.touches_landSaving path text result).nextId.symm
  | checking ticket =>
    exact Nat.le_of_eq (Watch.touches_land ticket result d.workspace d.watch).nextId.symm

@[simp] theorem workspace_abandon (d : Desk) (pending : Pending) :
    (d.abandon pending).workspace = d.workspace := by
  cases pending <;> rfl

end Desk

namespace Bench

def generation (b : Bench) : Nat := b.desk.workspace.generation

def nextId (b : Bench) : Nat := b.desk.workspace.nextId

theorem nextId_le_step (b : Bench) (e : Event) : b.nextId ≤ (b.step e).2.nextId := by
  simp only [nextId]
  cases b.move e with
  | begins event asked desk disk tasks =>
    rw [← Desk.nextId_flushed (b.step e).2.desk, desk]
    exact Nat.le_of_eq (b.desk.nextId_begin _).symm
  | lands finished desk disk tasks =>
    rw [← Desk.nextId_flushed (b.step e).2.desk, desk]
    exact b.desk.nextId_le_land _ _
  | drops dropped desk disk tasks => simp [desk]
  | rests asked finished dropped desk tasks => simp [desk]

theorem nextId_step_of_load {b : Bench} {e : Event} {path content : Text} {id : Nat}
    (h : b.effect e path = .load id content) : id = b.nextId ∧ (b.step e).2.nextId = id + 1 := by
  have cause := h ▸ b.cause e path
  cases cause with
  | @load t _ finished pending read closed =>
    refine ⟨rfl, ?_⟩
    rw [nextId, ← Desk.nextId_flushed, (step_of_finished finished).1, pending]
    simp only [Disk.access, read, Desk.nextId_flushed, Desk.nextId_landOpening]
    rw [← session?, closed]
    rfl

theorem apply_some {effect : Effect} {path : Text} {s s' : Session}
    (h : effect.apply path (some s) = some s')
    (not_load : ∀ id content, effect ≠ .load id content) :
    s'.id = s.id ∧ s'.revision = s.revision + effect.rebases.toNat ∧
      (effect.rebases = false → s'.baseline = s.baseline) := by
  cases effect with
  | load id content => exact absurd rfl (not_load id content)
  | remove => cases h
  | endSave written =>
    cases written <;>
    · cases h
      simp [Session.finishSave, Session.setBaseline, Effect.rebases]
  | settle r disk =>
    cases r <;>
    · cases h
      simp [Watch.settle, Session.reset, Session.edit, Session.setBaseline, Effect.rebases]
  | _ =>
    cases h
    simp [Session.reset, Session.edit, Session.setBaseline, Effect.rebases]

theorem closed_of_remove {b : Bench} {e : Event} {path : Text}
    (asked : b.asked? e = some (.remove path)) : (b.step e).2.session? path = none := by
  rw [session?_step, effect_of_asked asked]
  simp [Desk.beginEffect, Effect.apply]

theorem not_load_of_opened {b : Bench} {e : Event} {path : Text} {s : Session}
    (opened : b.session? path = some s) (id : Nat) (content : Text) :
    b.effect e path ≠ .load id content := by
  intro h
  have cause := h ▸ b.cause e path
  cases cause with
  | load finished pending read closed => simp [opened] at closed

theorem session_step {b : Bench} (e : Event) {path : Text} {s : Session}
    (opened : b.session? path = some s) :
    b.asked? e = some (.remove path) ∧ (b.step e).2.session? path = none ∨
      ∃ s', (b.step e).2.session? path = some s' ∧ s'.id = s.id ∧
        s'.revision = s.revision + (b.effect e path).rebases.toNat ∧
        ((b.effect e path).rebases = false → s'.baseline = s.baseline) := by
  have not_load := not_load_of_opened opened (e := e)
  have cause := b.cause e path
  rw [session?_step, opened]
  cases after : (b.effect e path).apply path (some s) with
  | some s' => exact .inr ⟨s', rfl, apply_some after not_load⟩
  | none =>
    refine .inl ⟨?_, rfl⟩
    generalize b.effect e path = effect at after cause
    cases cause with
    | remove asked => exact asked
    | _ => cases after

inductive Origin (b : Bench) (e : Event) (path : Text) (s' : Session) : Prop
  | kept {s : Session} (opened : b.session? path = some s) (id : s'.id = s.id)
      (revision : s.revision ≤ s'.revision)
  | loaded {t : BenchTask} (finished : b.finished? e = some t)
      (pending : t.pending = .opening path) (id : s'.id = b.nextId)
      (next : (b.step e).2.nextId = b.nextId + 1)

theorem origin {b : Bench} {e : Event} {path : Text} {s' : Session}
    (after : (b.step e).2.session? path = some s') : b.Origin e path s' := by
  cases before : b.session? path with
  | some s =>
    rcases session_step e before with ⟨-, closed⟩ | ⟨s₁, after₁, id, revision, -⟩
    · simp [closed] at after
    · cases after.symm.trans after₁
      exact .kept before id (by omega)
  | none =>
    have cause := b.cause e path
    rw [session?_step, before] at after
    cases effect : b.effect e path with
    | load id content =>
      obtain ⟨rfl, next⟩ := nextId_step_of_load effect
      rw [effect] at after cause
      cases after
      cases cause with
      | load finished pending read closed => exact .loaded finished pending rfl next
    | _ =>
      rw [effect] at after
      cases after

def IdsGiven (b : Bench) : Prop := ∀ path s, b.session? path = some s → s.id < b.nextId

theorem idsGiven (u : Setup) (es : List Event) : (u.bench.run es).IdsGiven := by
  refine invariant (fun u path s h => ?_) (fun b e given path s' after => ?_) u es
  · cases h
  · cases origin after with
    | kept opened id =>
      have := given path _ opened
      have := b.nextId_le_step e
      omega
    | loaded finished pending id next => omega

def IdsApart (b : Bench) : Prop :=
  ∀ p q s t, b.session? p = some s → b.session? q = some t → s.id = t.id → p = q

theorem idsApart_step {b : Bench} {e : Event} (given : b.IdsGiven) (apart : b.IdsApart) :
    (b.step e).2.IdsApart := by
  intro p q s' t' hs ht same
  cases origin hs with
  | kept opened id =>
    have before := given p _ opened
    cases origin ht with
    | kept opened' id' => exact apart p q _ _ opened opened' (id.symm.trans (same.trans id'))
    | loaded finished' pending' id' next' => omega
  | loaded finished pending id next =>
    cases origin ht with
    | kept opened' id' =>
      have before := given q _ opened'
      omega
    | loaded finished' pending' id' next' =>
      cases finished.symm.trans finished'
      cases pending.symm.trans pending'
      rfl

theorem idsApart (u : Setup) (es : List Event) : (u.bench.run es).IdsApart := by
  induction es using List.reverseRecOn with
  | nil =>
    intro p q s t hs
    cases hs
  | append_singleton es e ih =>
    rw [run_concat]
    exact idsApart_step (idsGiven u es) ih

def rebases (b : Bench) (es : List Event) (path : Text) : Nat :=
  (b.steps es).countP fun x => (x.1.effect x.2 path).rebases

theorem rebases_cons (b : Bench) (e : Event) (es : List Event) (path : Text) :
    b.rebases (e :: es) path =
      (b.effect e path).rebases.toNat + (b.step e).2.rebases es path := by
  simp only [rebases, steps, List.countP_cons]
  cases (b.effect e path).rebases <;> simp [Nat.add_comm]

theorem session_run {b : Bench} (es : List Event) {path : Text} {s : Session}
    (opened : b.session? path = some s) :
    (∃ x ∈ b.steps es, x.1.asked? x.2 = some (.remove path)) ∨
      (∀ x ∈ b.states es, x.Holds path s.id) ∧
      ∃ s', (b.run es).session? path = some s' ∧ s'.id = s.id ∧
        s'.revision = s.revision + b.rebases es path ∧
        (b.rebases es path = 0 → s'.baseline = s.baseline) := by
  induction es generalizing b s with
  | nil =>
    refine .inr ⟨?_, s, opened, rfl, rfl, fun _ => rfl⟩
    rintro x hx
    obtain rfl := List.mem_singleton.1 hx
    exact ⟨s, opened, rfl⟩
  | cons e es ih =>
    rcases session_step e opened with ⟨removed, -⟩ | ⟨s₁, opened₁, id₁, revision₁, baseline₁⟩
    · exact .inl ⟨(b, e), by simp [steps], removed⟩
    · rcases ih opened₁ with ⟨x, hx, removed⟩ | ⟨stays, s', opened', id', revision', baseline'⟩
      · exact .inl ⟨x, by simp [steps, hx], removed⟩
      · refine .inr ⟨?_, s', opened', id'.trans id₁, ?_, ?_⟩
        · intro x hx
          rw [states, List.mem_cons] at hx
          rcases hx with rfl | hx
          · exact ⟨s, opened, rfl⟩
          · exact id₁ ▸ stays x hx
        · rw [rebases_cons]
          omega
        · intro still
          rw [rebases_cons] at still
          have here : (b.effect e path).rebases = false := by
            cases h : (b.effect e path).rebases with
            | false => rfl
            | true => simp [h] at still
          exact (baseline' (by omega)).trans (baseline₁ here)

/-- The id was given, and a session that has it at the path has come to this revision at least. -/
def Past (b : Bench) (path : Text) (id revision : Nat) : Prop :=
  id < b.nextId ∧ ∀ s, b.session? path = some s → s.id = id → revision ≤ s.revision

theorem past_step {b : Bench} (e : Event) {path : Text} {id revision : Nat}
    (past : b.Past path id revision) : (b.step e).2.Past path id revision := by
  obtain ⟨given, reached⟩ := past
  refine ⟨Nat.lt_of_lt_of_le given (b.nextId_le_step e), ?_⟩
  intro s' after same
  cases origin after with
  | kept opened id' revision' =>
    have := reached _ opened (by omega)
    omega
  | loaded finished pending id' next => omega

theorem past_run {b : Bench} (es : List Event) {path : Text} {id revision : Nat}
    (past : b.Past path id revision) : (b.run es).Past path id revision := by
  induction es generalizing b with
  | nil => exact past
  | cons e es ih => exact ih (past_step e past)

theorem turned_step (b : Bench) (e : Event) :
    b.desk.workspace.Turned (b.step e).2.desk.workspace := by
  -- neither the current path nor the generation lies in the outbox
  change b.desk.workspace.Turned (b.step e).2.desk.flushed.workspace
  cases b.move e with
  | begins event asked desk disk tasks =>
    rw [desk]
    exact b.desk.turned_begin _
  | lands finished desk disk tasks =>
    rw [desk]
    exact b.desk.turned_land _ _
  | drops dropped desk disk tasks =>
    rw [desk]
    exact .of_eq (by simp [Desk.flushed]) (by simp [Desk.flushed])
  | rests asked finished dropped desk tasks =>
    rw [desk]
    exact .of_eq rfl rfl

theorem generation_le_run (b : Bench) (es : List Event) :
    b.generation ≤ (b.run es).generation := by
  induction es generalizing b with
  | nil => exact Nat.le_refl _
  | cons e es ih =>
    have := ih (b.step e).2
    have := b.turned_step e
    simp only [Workspace.Turned, generation, run_cons] at *
    omega

theorem current?_of_generation {b : Bench} {es : List Event}
    (same : (b.run es).generation = b.generation) : ∀ x ∈ b.states es, x.current? = b.current? := by
  induction es generalizing b with
  | nil => simp [states]
  | cons e es ih =>
    have later := (b.step e).2.generation_le_run es
    rw [run_cons] at same
    rcases b.turned_step e with ⟨current, unchanged⟩ | ⟨-, grown⟩
    · have generation : (b.step e).2.generation = b.generation := unchanged
      intro x hx
      rw [states, List.mem_cons] at hx
      rcases hx with rfl | hx
      · rfl
      · exact (ih (same.trans generation.symm) x hx).trans current
    · have generation : (b.step e).2.generation = b.generation + 1 := grown
      omega

theorem current?_step_of_remove {b : Bench} {e : Event} {path : Text}
    (asked : b.asked? e = some (.remove path)) : (b.step e).2.current? ≠ some path := by
  rw [current?, ← Desk.current?_flushed, (step_of_asked asked).1]
  exact b.desk.workspace.current?_remove_ne path

theorem session_run_of_current {b : Bench} {es : List Event} {path : Text} {s : Session}
    (opened : b.session? path = some s) (current : ∀ x ∈ b.states es, x.current? = some path) :
    ∃ s', (b.run es).session? path = some s' ∧ s'.id = s.id ∧
      (s'.revision = s.revision → s'.baseline = s.baseline) := by
  rcases session_run es opened with ⟨x, hx, removed⟩ | ⟨-, s', opened', id', revision', baseline'⟩
  · exact absurd (current _ (step_mem_states hx)) (current?_step_of_remove removed)
  · exact ⟨s', opened', id', fun same => baseline' (by omega)⟩

end Bench
end ScriptDesk
