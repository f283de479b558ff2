import ScriptDesk.Proofs.Run
import ScriptDesk.Proofs.Watch

/-! What a step does to the session at one path.  `Bench.effect` computes it, `Bench.session?_step`
says that it is all that happens there, and `Bench.cause` says what it takes to come about. -/

namespace ScriptDesk

inductive Effect
  | keep
  | load (id : Nat) (content : Text)
  | refresh (content : Text)
  | adopt (disk : Text)
  | edit (text : Text)
  | beginSave
  | endSave (written : Option Text)
  | settle (r : Resolution) (disk : Text)
  | remove
  deriving DecidableEq, Repr

namespace Effect

def apply (path : Text) : Effect → Option Session → Option Session
  | keep, s => s
  | load id content, _ => some (.loaded id path content)
  | refresh content, s => s.map (Session.reset content)
  | adopt disk, s => s.map (Session.reset disk)
  | edit text, s => s.map (Session.edit text)
  | beginSave, s => s.map fun s => { s with saving := true }
  | endSave written, s => s.map (Session.finishSave written)
  | settle r disk, s => s.map (Watch.settle r disk)
  | remove, _ => none

/-- Whether the baseline is replaced, be it by an equal text: a save that wrote, a refresh on
opening, an adopted change, or a resolution. -/
def rebases : Effect → Bool
  | refresh _ | adopt _ | endSave (some _) | settle _ _ => true
  | _ => false

end Effect

def Act.edits : Act → Bool
  | .edit _ | .format => true
  | _ => false

namespace Desk

def beginEffect (d : Desk) (path : Text) : Act → Effect
  | .edit text => if d.workspace.current? = some path then .edit text else .keep
  | .format =>
    match d.workspace.currentSession? with
    | some s => if s.path = path then .edit (Layout.format s.working) else .keep
    | none => .keep
  | .save => if d.workspace.current? = some path then .beginSave else .keep
  | .savePath p => if p = path then .beginSave else .keep
  | .remove p => if p = path then .remove else .keep
  | .resolve r =>
    match d.watch.conflict, d.workspace.session? path with
    | some c, some s =>
      if c.path = path ∧ s.id = c.session ∧ s.revision = c.revision then .settle r c.disk else .keep
    | _, _ => .keep
  | _ => .keep

def saves (d : Desk) (path : Text) : Act → Bool
  | .savePath p => p == path
  | .save => d.workspace.current? == some path
  | _ => false

theorem saves_cases {d : Desk} {path : Text} {a : Act} (h : d.saves path a = true) :
    a = .savePath path ∨ a = .save ∧ d.workspace.current? = some path := by
  cases a with
  | savePath p => exact .inl (congrArg Act.savePath (eq_of_beq h))
  | save => exact .inr ⟨rfl, eq_of_beq h⟩
  | _ => cases h

theorem begin_of_saves {d : Desk} {path : Text} {a : Act} (h : d.saves path a = true) :
    d.begin a = d.within (d.workspace.savePath path) := by
  rcases saves_cases h with rfl | ⟨rfl, current⟩
  · rfl
  · simp only [begin, Workspace.save, current]

theorem beginEffect_of_saves {d : Desk} {path : Text} {a : Act} (h : d.saves path a = true) :
    d.beginEffect path a = .beginSave := by
  rcases saves_cases h with rfl | ⟨rfl, current⟩
  · exact if_pos rfl
  · exact if_pos current

def openEffect (d : Desk) (path content : Text) : Effect :=
  match d.workspace.session? path with
  | none => .load d.workspace.nextId content
  | some s => if s.held || s.baseline == content then .keep else .refresh content

def landEffect (d : Desk) (disk : Disk) (path : Text) : Pending → Effect
  | .opening p =>
    match disk.read p with
    | .ok content => if p = path then d.openEffect path content else .keep
    | .error _ => .keep
  | .saving p text =>
    if p = path then
      match (disk.write p text).1 with
      | .ok () => .endSave (some text)
      | .error _ => .endSave none
    else .keep
  | .checking t =>
    match disk.read t.path with
    | .ok text =>
      match Watch.judge t text d.workspace d.watch with
      | .adopted p => if p = path then .adopt text else .keep
      | _ => .keep
    | .error _ => .keep

end Desk

namespace Workspace

theorem session?_edit (text path : Text) (w : Workspace) :
    (w.edit text).2.session? path =
      if w.current? = some path then (w.session? path).map (Session.edit text)
      else w.session? path := by
  unfold edit
  cases h : w.currentSession? with
  | none =>
    by_cases hc : w.current? = some path
    · have hs : w.session? path = none := by simpa [currentSession?, hc] using h
      simp [hs]
    · simp [hc]
  | some s =>
    obtain ⟨hc, hs⟩ := currentSession?_eq_some.1 h
    rw [session?_modify _ (by simp), hc]
    simp only [Option.some.injEq, eq_comm]

theorem session?_format (path : Text) (w : Workspace) :
    w.format.2.session? path =
      match w.currentSession? with
      | some s =>
        if s.path = path then (w.session? path).map (Session.edit (Layout.format s.working))
        else w.session? path
      | none => w.session? path := by
  unfold format
  cases h : w.currentSession? with
  | none => rfl
  | some s =>
    obtain ⟨-, hs⟩ := currentSession?_eq_some.1 h
    by_cases same : Layout.format s.working = s.working
    · simp only [same, if_true]
      split
      · next hp => rw [← hp, hs, Option.map_some, Session.edit_working]
      · rfl
    · simp only [same, if_false]
      rw [session?_modify _ (by simp)]
      simp only [eq_comm]

theorem session?_savePath (p path : Text) (w : Workspace) :
    (w.savePath p).2.session? path =
      if p = path then (w.session? path).map fun s => { s with saving := true }
      else w.session? path := by
  unfold savePath
  cases hs : w.session? p with
  | none =>
    by_cases hp : p = path
    · simp [← hp, hs]
    · simp [hp]
  | some s =>
    cases hb : s.beginSave? with
    | none =>
      by_cases hp : p = path
      · simp [hb, ← hp, hs, ← Session.saving_of_beginSave?_eq_none hb]
      · simp [hb, hp]
    | some begun =>
      have hbegun := Session.beginSave?_eq_some hb
      have hpath : begun.path = p := by simp [hbegun, path_of_session? hs]
      simp only [hb]
      rw [session?_modify _ (fun _ _ => hpath)]
      by_cases hp : p = path
      · simp [← hp, hs, hbegun]
      · simp [hp, Ne.symm hp]

theorem session?_save (path : Text) (w : Workspace) :
    w.save.2.session? path =
      if w.current? = some path then (w.session? path).map fun s => { s with saving := true }
      else w.session? path := by
  unfold save
  cases h : w.current? with
  | none => simp
  | some p => simp [session?_savePath]

theorem session?_remove (p path : Text) (w : Workspace) :
    (w.remove p).session? path = if p = path then none else w.session? path := by
  simp only [session?, sessions_remove, Sessions.get?_erase, eq_comm]

theorem session?_landSaving (p text path : Text) (write : Except IoError Unit) (w : Workspace) :
    (w.landSaving p text write).2.session? path =
      if p = path then
        (w.session? path).map (Session.finishSave (write.toOption.map fun _ => text))
      else w.session? path := by
  cases write with
  | ok =>
    simp only [landSaving]
    rw [session?_modify _ (by simp)]
    simp only [Except.toOption, Option.map_some, eq_comm]
  | error e =>
    simp only [landSaving]
    rw [session?_modify _ (by simp)]
    simp only [Except.toOption, Option.map_none, eq_comm]

theorem session?_receive (p content path : Text) (w : Workspace) :
    (w.receive p content).session? path =
      if p = path then
        match w.session? path with
        | none => some (.loaded w.nextId path content)
        | some s => some (if s.held || s.baseline == content then s else s.reset content)
      else w.session? path := by
  unfold receive
  cases hs : w.session? p with
  | none =>
    have inserted : ∀ ss : Sessions, (ss.insert (.loaded w.nextId p content)).get? path =
        if p = path then some (.loaded w.nextId p content) else ss.get? path :=
      fun ss => Sessions.get?_insert _ ss path
    simp only [session?] at hs ⊢
    rw [inserted]
    by_cases hp : p = path
    · simp [← hp, hs]
    · simp [hp]
  | some s =>
    by_cases hk : (s.held || s.baseline == content) = true
    · by_cases hp : p = path
      · simp [hk, ← hp, hs]
      · simp [hk, hp]
    · simp only [hk]
      rw [if_neg Bool.false_ne_true, session?_modify _ (by simp)]
      by_cases hp : p = path
      · simp [← hp, hs, hk]
      · simp [hp, Ne.symm hp]

theorem opened_receive (path content : Text) (w : Workspace) :
    ∃ s, (w.receive path content).session? path = some s := by
  rw [session?_receive, if_pos rfl]
  split
  · exact ⟨_, rfl⟩
  · exact ⟨_, rfl⟩

theorem shown_landOpening (w : Workspace) (path content : Text) :
    ∃ s, (w.landOpening path (.ok content)).1 = .ok (.session s) := by
  obtain ⟨s, opened⟩ := opened_receive path content w
  simp only [landOpening, makeCurrent_of_opened opened]
  exact ⟨s, rfl⟩

theorem session?_landOpening (p content path : Text) (w : Workspace) :
    (w.landOpening p (.ok content)).2.session? path = (w.receive p content).session? path := by
  simp only [landOpening]
  exact session?_of_sessions (sessions_makeCurrent _ p) path

end Workspace

namespace Desk

theorem session?_resolve (r : Resolution) (path : Text) (d : Desk) :
    (d.watch.resolve r d.workspace).2.1.session? path =
      (d.beginEffect path (.resolve r)).apply path (d.workspace.session? path) := by
  unfold Watch.resolve beginEffect
  cases hc : d.watch.conflict with
  | none => rfl
  | some c =>
    cases hs : d.workspace.session? c.path with
    | none =>
      cases hp : d.workspace.session? path with
      | none => simp [hs, hp, Effect.apply]
      | some s =>
        have other : c.path ≠ path := by
          rintro rfl
          simp [hs] at hp
        simp [hs, hp, other, Effect.apply]
    | some s =>
      by_cases same : c.path = path
      · subst same
        by_cases hm : s.id = c.session ∧ s.revision = c.revision
        · simp [hs, hm, Effect.apply, Workspace.session?_modify]
        · simp [hs, hm, Effect.apply]
      · by_cases hm : s.id = c.session ∧ s.revision = c.revision
        · cases hp : d.workspace.session? path <;>
            simp [hs, hp, hm, same, Ne.symm same, Effect.apply, Workspace.session?_modify]
        · cases hp : d.workspace.session? path <;> simp [hs, hp, hm, same, Effect.apply]

theorem check_snd (d : Desk) :
    d.check.2 = { d with watch := (d.watch.claim d.workspace).2 } := by
  unfold check
  rcases d.watch.claim d.workspace with ⟨_ | _, watch⟩ <;> rfl

theorem workspace_begin_focus (d : Desk) (now : Bool) :
    (d.begin (.focus now)).2.workspace = d.workspace := by
  cases h : regained d.focused now <;> simp [begin, h, check_snd]

theorem session?_begin (d : Desk) (a : Act) (path : Text) :
    (d.begin a).2.workspace.session? path =
      (d.beginEffect path a).apply path (d.workspace.session? path) := by
  cases a with
  | openFile p =>
    exact Workspace.session?_of_sessions (Workspace.shows_openFile _ p).opens.sessions path
  | select p => exact Workspace.session?_of_sessions (Workspace.opens_select _ p).sessions path
  | restore => exact Workspace.session?_of_sessions (Workspace.shows_restore _).opens.sessions path
  | save =>
    have := Workspace.session?_save path d.workspace
    simp only [begin, within, beginEffect, this]
    split <;> rfl
  | savePath p =>
    have := Workspace.session?_savePath p path d.workspace
    simp only [begin, within, beginEffect, this]
    split <;> rfl
  | check => simp [begin, check_snd, beginEffect, Effect.apply]
  | focus now => rw [workspace_begin_focus]; rfl
  | remove p =>
    have := Workspace.session?_remove p path d.workspace
    simp only [begin, within, beginEffect, this]
    split <;> rfl
  | edit text =>
    have := Workspace.session?_edit text path d.workspace
    simp only [begin, within, beginEffect, this]
    split <;> rfl
  | format =>
    have := Workspace.session?_format path d.workspace
    simp only [begin, within, beginEffect, this]
    cases d.workspace.currentSession? with
    | none => rfl
    | some s => by_cases hp : s.path = path <;> simp [hp, Effect.apply]
  | resolve r => exact session?_resolve r path d
  | setTheme t => rfl
  | shutDown => rfl

theorem session?_land (d : Desk) (disk : Disk) (pending : Pending) (path : Text) :
    (d.land pending (disk.access pending.access).1).2.workspace.session? path =
      (d.landEffect disk path pending).apply path (d.workspace.session? path) := by
  cases pending with
  | opening p =>
    simp only [land, within, landEffect, Disk.access]
    cases hr : disk.read p with
    | error e => rfl
    | ok content =>
      rw [Workspace.session?_landOpening, Workspace.session?_receive]
      by_cases hp : p = path
      · simp only [hp, if_true, openEffect]
        cases hs : d.workspace.session? path with
        | none => rfl
        | some s =>
          by_cases hk : (s.held || s.baseline == content) = true <;> simp [hk, Effect.apply]
      · simp only [hp, if_false, Effect.apply]
  | saving p text =>
    simp only [land, within, landEffect, Disk.access]
    rw [Workspace.session?_landSaving]
    by_cases hp : p = path
    · cases (disk.write p text).1 <;> simp [hp, Except.toOption, Effect.apply]
    · simp [hp, Effect.apply]
  | checking t =>
    simp only [land, landEffect, Disk.access, Watch.land]
    cases hr : disk.read t.path with
    | error e => rfl
    | ok text =>
      have released : Watch.judge t text d.workspace d.watch.release =
          Watch.judge t text d.workspace d.watch := rfl
      simp only [released]
      cases hj : Watch.judge t text d.workspace d.watch with
      | adopted p =>
        have kept : ∀ s : Session, s.path = p → (s.reset text).path = p := by simp
        simp only [Workspace.session?_modify d.workspace kept]
        by_cases hp : p = path
        · simp [hp, Effect.apply]
        · simp [hp, Ne.symm hp, Effect.apply]
      | _ => rfl

end Desk

namespace Bench

def effect (b : Bench) (e : Event) (path : Text) : Effect :=
  match b.asked? e, b.finished? e with
  | some a, _ => b.desk.beginEffect path a
  | none, some t => b.desk.landEffect b.disk path t.pending
  | none, none => .keep

theorem effect_of_asked {b : Bench} {e : Event} {a : Act} (h : b.asked? e = some a) (path : Text) :
    b.effect e path = b.desk.beginEffect path a := by
  simp only [effect, h]

theorem effect_of_finished {b : Bench} {e : Event} {t : BenchTask} (h : b.finished? e = some t)
    (path : Text) : b.effect e path = b.desk.landEffect b.disk path t.pending := by
  simp only [effect, asked?_of_finished h, h]

theorem session?_step (b : Bench) (e : Event) (path : Text) :
    (b.step e).2.session? path = (b.effect e path).apply path (b.session? path) := by
  cases b.move e with
  | begins event asked desk disk tasks =>
    rw [effect_of_asked asked, session?, ← Desk.session?_flushed, desk]
    exact b.desk.session?_begin _ path
  | lands finished desk disk tasks =>
    rw [effect_of_finished finished, session?, ← Desk.session?_flushed, desk]
    exact b.desk.session?_land b.disk _ path
  | @drops t dropped desk disk tasks =>
    have idle : b.effect e path = .keep := by
      simp only [effect, asked?_of_dropped dropped, finished?_of_dropped dropped]
    rw [idle, session?, desk]
    cases t.pending <;> rfl
  | rests asked finished dropped desk tasks =>
    have idle : b.effect e path = .keep := by simp only [effect, asked, finished]
    rw [idle, session?, desk]
    rfl

inductive Cause (b : Bench) (e : Event) (path : Text) : Effect → Prop
  | keep : Cause b e path .keep
  | load {t : BenchTask} {content : Text} (finished : b.finished? e = some t)
      (pending : t.pending = .opening path) (read : b.disk.read path = .ok content)
      (closed : b.session? path = none) : Cause b e path (.load b.desk.workspace.nextId content)
  | refresh {t : BenchTask} {content : Text} {s : Session} (finished : b.finished? e = some t)
      (pending : t.pending = .opening path) (read : b.disk.read path = .ok content)
      (opened : b.session? path = some s) (free : s.held = false) :
      Cause b e path (.refresh content)
  | adopt {t : BenchTask} {ticket : Ticket} {disk : Text} (finished : b.finished? e = some t)
      (pending : t.pending = .checking ticket) (read : b.disk.read ticket.path = .ok disk)
      (judged : Watch.judge ticket disk b.desk.workspace b.desk.watch = .adopted path) :
      Cause b e path (.adopt disk)
  | edit {a : Act} {text : Text} (asked : b.asked? e = some a) (edits : a.edits)
      (current : b.current? = some path) : Cause b e path (.edit text)
  | beginSave {a : Act} (asked : b.asked? e = some a)
      (saves : a = .savePath path ∨ a = .save ∧ b.current? = some path) :
      Cause b e path .beginSave
  | written {t : BenchTask} {text : Text} (finished : b.finished? e = some t)
      (pending : t.pending = .saving path text) (write : (b.disk.write path text).1 = .ok ()) :
      Cause b e path (.endSave (some text))
  | unwritten {t : BenchTask} {text : Text} {error : IoError} (finished : b.finished? e = some t)
      (pending : t.pending = .saving path text)
      (write : (b.disk.write path text).1 = .error error) :
      Cause b e path (.endSave none)
  | settle {r : Resolution} {c : Conflict} {s : Session} (asked : b.asked? e = some (.resolve r))
      (conflict : b.conflict? = some c) (same : c.path = path) (opened : b.session? path = some s)
      (id : s.id = c.session) (revision : s.revision = c.revision) :
      Cause b e path (.settle r c.disk)
  | remove (asked : b.asked? e = some (.remove path)) : Cause b e path .remove

theorem cause_begin {b : Bench} {e : Event} {a : Act} (asked : b.asked? e = some a) (path : Text) :
    b.Cause e path (b.desk.beginEffect path a) := by
  cases a with
  | edit text =>
    simp only [Desk.beginEffect]
    split
    · exact .edit asked rfl ‹_›
    · exact .keep
  | format =>
    simp only [Desk.beginEffect]
    split
    · next s hs =>
      split
      · next hp =>
        obtain ⟨current, -⟩ := Workspace.currentSession?_eq_some.1 hs
        exact .edit asked rfl (hp ▸ current)
      · exact .keep
    · exact .keep
  | save =>
    simp only [Desk.beginEffect]
    split
    · exact .beginSave asked (.inr ⟨rfl, ‹_›⟩)
    · exact .keep
  | savePath p =>
    simp only [Desk.beginEffect]
    split
    · next hp => exact .beginSave asked (.inl (hp ▸ rfl))
    · exact .keep
  | remove p =>
    simp only [Desk.beginEffect]
    split
    · next hp => exact .remove (hp ▸ asked)
    · exact .keep
  | resolve r =>
    simp only [Desk.beginEffect]
    split
    · next c s hc hs =>
      split
      · next same => exact .settle asked hc same.1 hs same.2.1 same.2.2
      · exact .keep
    · exact .keep
  | _ => exact .keep

theorem cause_land {b : Bench} {e : Event} {t : BenchTask} (finished : b.finished? e = some t)
    (path : Text) : b.Cause e path (b.desk.landEffect b.disk path t.pending) := by
  cases pending : t.pending with
  | opening p =>
    simp only [Desk.landEffect]
    split
    · next content read =>
      split
      · next hp =>
        subst hp
        simp only [Desk.openEffect]
        split
        · next closed => exact .load finished pending read closed
        · next s opened =>
          split
          · exact .keep
          · next free =>
            simp only [Bool.or_eq_true, not_or, Bool.not_eq_true] at free
            exact .refresh finished pending read opened free.1
      · exact .keep
    · exact .keep
  | saving p text =>
    simp only [Desk.landEffect]
    split
    · next hp =>
      subst hp
      split
      · exact .written finished pending ‹_›
      · exact .unwritten finished pending ‹_›
    · exact .keep
  | checking ticket =>
    simp only [Desk.landEffect]
    split
    · next text read =>
      split
      · next p judged =>
        split
        · next hp =>
          subst hp
          exact .adopt finished pending read judged
        · exact .keep
      · exact .keep
    · exact .keep

theorem cause (b : Bench) (e : Event) (path : Text) : b.Cause e path (b.effect e path) := by
  cases asked : b.asked? e with
  | some a =>
    rw [effect_of_asked asked]
    exact cause_begin asked path
  | none =>
    cases finished : b.finished? e with
    | some t =>
      rw [effect_of_finished finished]
      exact cause_land finished path
    | none =>
      simp only [effect, asked, finished]
      exact .keep

end Bench
end ScriptDesk
