import ScriptDesk.Proofs.Lineage
import Mathlib.Data.List.Nodup

namespace ScriptDesk
namespace Registry

def paths (r : Registry) : List Text := r.known.map (·.path)

theorem contains_iff {r : Registry} {path : Text} : r.contains path = true ↔ path ∈ r.paths := by
  simp [contains, paths]

theorem mem_paths_add {r : Registry} {e : Entry} {path : Text} :
    path ∈ (r.add e).paths ↔ path ∈ r.paths ∨ path = e.path := by
  unfold add
  split
  · next known =>
    rw [contains_iff] at known
    exact ⟨.inl, fun h => h.elim id fun same => same ▸ known⟩
  · simp [paths, eq_comm]

theorem nodup_add {r : Registry} (e : Entry) (h : r.paths.Nodup) : (r.add e).paths.Nodup := by
  unfold add
  split
  · exact h
  · next fresh =>
    rw [contains_iff] at fresh
    simpa [paths] using List.nodup_append.2 ⟨h, List.nodup_singleton e.path, by grind⟩

theorem ofRecent_induction {P : Registry → Prop} (start : P empty)
    (add : ∀ r e, P r → P (r.add e)) (es : List Entry) : P (ofRecent es) :=
  List.foldlRecOn _ _ start fun r h e _ => add r e h

theorem nodup_ofRecent (es : List Entry) : (ofRecent es).paths.Nodup :=
  ofRecent_induction (P := fun r => r.paths.Nodup) List.nodup_nil (fun _ => nodup_add) es

theorem current_ofRecent (es : List Entry) : (ofRecent es).current = none :=
  ofRecent_induction (P := fun r => r.current = none) rfl
    (fun r e h => (r.current_add e).trans h) es

theorem paths_remove (r : Registry) (path : Text) :
    (r.remove path).paths = r.paths.filter (· != path) := by
  simp only [paths, remove, List.filter_map]
  rfl

end Registry

namespace Workspace

theorem mem_paths_of_session? {w : Workspace} {path : Text} {s : Session}
    (opened : w.session? path = some s) : path ∈ w.paths :=
  List.mem_map.2 ⟨s, List.mem_of_find?_eq_some opened, path_of_session? opened⟩

theorem isSome_session?_iff {w : Workspace} {path : Text} :
    (w.session? path).isSome = true ↔ path ∈ w.paths := by
  simp [session?, Sessions.get?, paths]

theorem paths_erase (ss : Sessions) (path : Text) :
    (ss.erase path).map (·.path) = (ss.map (·.path)).filter (· != path) := by
  simp only [Sessions.erase, List.filter_map]
  rfl

theorem paths_remove (w : Workspace) (path : Text) :
    (w.remove path).paths = w.paths.filter (· != path) := by
  rw [paths, sessions_remove, paths_erase, paths]

theorem paths_receive (w : Workspace) (path content : Text) :
    (w.receive path content).paths = if path ∈ w.paths then w.paths else path :: w.paths := by
  unfold receive
  split
  · next closed =>
    have absent : path ∉ w.paths := by simp [← isSome_session?_iff, closed]
    have others : w.paths.filter (· != path) = w.paths :=
      List.filter_eq_self.2 fun p hp => bne_iff_ne.2 fun same => absent (same ▸ hp)
    rw [if_neg absent, ← others]
    exact congrArg (path :: ·) (paths_erase w.sessions path)
  · next s opened =>
    rw [if_pos (mem_paths_of_session? opened)]
    split
    · rfl
    · exact paths_modify (by simp)

theorem registry_turnTo (w : Workspace) (path : Text) :
    (w.turnTo path).registry = { w.registry.add (.ofPath path) with current := some path } := by
  have known : (w.registry.add (.ofPath path)).contains path = true := w.registry.contains_add _
  simp only [turnTo]
  split
  · next current => simp only [← current]
  · simp only [Registry.setCurrent, known, if_true]

structure Coherent (w : Workspace) : Prop where
  known : w.registry.paths.Nodup
  opened : w.paths.Nodup
  opened_known : ∀ path ∈ w.paths, path ∈ w.registry.paths
  current_opened : ∀ path, w.current? = some path → path ∈ w.paths

namespace Coherent

theorem of_eq {w w' : Workspace} (h : w.Coherent) (registry : w'.registry = w.registry)
    (paths : w'.paths = w.paths) : w'.Coherent where
  known := registry ▸ h.known
  opened := paths ▸ h.opened
  opened_known := by rw [registry, paths]; exact h.opened_known
  current_opened := by rw [current?, registry, paths]; exact h.current_opened

theorem ofSettings (s : Settings) : (Workspace.ofSettings s).Coherent where
  known := Registry.nodup_ofRecent _
  opened := List.nodup_nil
  opened_known := by simp [Workspace.ofSettings, paths]
  current_opened := by simp [Workspace.ofSettings, current?, Registry.current_ofRecent]

theorem touches {w w' : Workspace} (h : w.Coherent) (touches : w.Touches w') : w'.Coherent := by
  obtain ⟨same, sessions, rfl⟩ := touches
  exact h.of_eq rfl same

theorem makeCurrent {w : Workspace} {path : Text} (known : w.registry.paths.Nodup)
    (opened : w.paths.Nodup)
    (opened_known : ∀ p ∈ w.paths, p ∈ w.registry.paths ∨ p = path)
    (here : path ∈ w.paths) : (w.makeCurrent path).2.Coherent := by
  have registry : (w.makeCurrent path).2.registry =
      { w.registry.add (.ofPath path) with current := some path } :=
    (w.registry_makeCurrent path).trans (w.registry_turnTo path)
  have same : (w.makeCurrent path).2.paths = w.paths := by simp [paths]
  constructor
  · rw [registry]
    exact Registry.nodup_add (.ofPath path) known
  · rwa [same]
  · intro p hp
    rw [registry]
    exact Registry.mem_paths_add.2 (opened_known p (same ▸ hp))
  · intro p hp
    rw [current?, registry] at hp
    cases hp
    rwa [same]

theorem opens {w w' : Workspace} (h : w.Coherent) (opens : w.Opens w') : w'.Coherent := by
  rcases opens with rfl | ⟨path, s, here, rfl⟩
  · exact h
  · exact makeCurrent h.known h.opened (fun p hp => .inl (h.opened_known p hp))
      (mem_paths_of_session? here)

theorem landOpening {w : Workspace} (h : w.Coherent) (path : Text) (read : Except IoError Text) :
    (w.landOpening path read).2.Coherent := by
  cases read with
  | error e => exact h
  | ok content =>
    rw [snd_landOpening]
    apply makeCurrent
    · rw [registry_receive]
      exact h.known
    · rw [paths_receive]
      split
      · exact h.opened
      · next closed => exact List.nodup_cons.2 ⟨closed, h.opened⟩
    · intro p hp
      rw [registry_receive]
      rw [paths_receive] at hp
      split at hp
      · exact .inl (h.opened_known p hp)
      · exact (List.mem_cons.1 hp).symm.imp_left (h.opened_known p)
    · rw [paths_receive]
      split
      · assumption
      · exact List.mem_cons_self

theorem remove {w : Workspace} (h : w.Coherent) (path : Text) : (w.remove path).Coherent := by
  have registry : (w.remove path).registry = w.registry.remove path := registry_remember _ _
  constructor
  · rw [registry, Registry.paths_remove]
    exact h.known.filter _
  · rw [paths_remove]
    exact h.opened.filter _
  · intro p hp
    rw [paths_remove, List.mem_filter] at hp
    rw [registry, Registry.paths_remove, List.mem_filter]
    exact hp.imp_left (h.opened_known p)
  · intro p hp
    rw [current?, registry] at hp
    obtain ⟨before, other⟩ := Registry.current_remove_eq_some.1 hp
    rw [paths_remove, List.mem_filter]
    exact ⟨h.current_opened p before, by simpa using other⟩

end Coherent

theorem session?_eq_some_iff {w : Workspace} (h : w.paths.Nodup) {path : Text} {s : Session} :
    w.session? path = some s ↔ s ∈ w.sessions ∧ s.path = path := by
  constructor
  · intro opened
    exact ⟨List.mem_of_find?_eq_some opened, path_of_session? opened⟩
  · rintro ⟨hs, rfl⟩
    obtain ⟨s', opened⟩ := Option.isSome_iff_exists.1
      (isSome_session?_iff.2 (List.mem_map_of_mem hs))
    have same := List.inj_on_of_nodup_map h (List.mem_of_find?_eq_some opened) hs
      (path_of_session? opened)
    exact same ▸ opened

theorem currentSession?_eq_none_iff {w : Workspace} (h : w.Coherent) :
    w.currentSession? = none ↔ w.current? = none := by
  unfold currentSession?
  cases current : w.current? with
  | none => simp
  | some path =>
    have opened := isSome_session?_iff.2 (h.current_opened path current)
    simpa using Option.isSome_iff_ne_none.1 opened

end Workspace

namespace Desk

theorem coherent_begin {d : Desk} (h : d.workspace.Coherent) (a : Act) :
    (d.begin a).2.workspace.Coherent := by
  cases d.changes a with
  | opens opens => exact h.opens opens
  | touches touches => exact h.touches touches
  | removes asked removed => exact removed ▸ h.remove _
  | remembers remembered => exact remembered ▸ h.of_eq rfl rfl

theorem coherent_land {d : Desk} (h : d.workspace.Coherent) (pending : Pending)
    (result : pending.access.Result) : (d.land pending result).2.workspace.Coherent := by
  cases pending with
  | opening path => exact h.landOpening path result
  | saving path text => exact h.touches (d.workspace.touches_landSaving path text result)
  | checking ticket => exact h.touches (Watch.touches_land ticket result d.workspace d.watch)

theorem coherent_flushed {d : Desk} : d.flushed.workspace.Coherent ↔ d.workspace.Coherent :=
  ⟨fun h => h.of_eq rfl rfl, fun h => h.of_eq rfl rfl⟩

inductive Fails (d : Desk) : Act → Failure → Prop
  | unedited {a : Act} (edits : a.edits = true) (idle : d.workspace.currentSession? = none) :
      Fails d a .noActiveSession
  | unsaved (idle : d.workspace.current? = none) : Fails d .save .noActiveSession
  | unknown {path : Text} (unknown : d.workspace.registry.contains path = false) :
      Fails d (.select path) (.unknownFile path)
  | closed {a : Act} {path : Text} (saves : d.saves path a = true)
      (closed : d.workspace.session? path = none) : Fails d a (.unknownFile path)
  | busy {a : Act} {path : Text} {s : Session} (saves : d.saves path a = true)
      (opened : d.workspace.session? path = some s) (busy : s.saving = true) :
      Fails d a (.busy path)
  | settled {r : Resolution} (none : d.watch.conflict = none) : Fails d (.resolve r) .noConflict

theorem fails_of_begin {d : Desk} {a : Act} {failure : Failure}
    (h : (d.begin a).1 = .done (.error failure)) : d.Fails a failure := by
  have showing {r : Stage × Workspace} (shows : d.workspace.Shows r)
      (h : r.1 = .done (.error failure)) : d.Fails a failure := by
    cases shows <;> cases h
  have saving {path : Text} (saves : d.saves path a = true) : d.Fails a failure := by
    rw [begin_of_saves saves] at h
    simp only [within, Workspace.savePath] at h
    split at h
    · next closed =>
      cases h
      exact .closed saves closed
    · next s opened =>
      split at h
      · next begun =>
        cases h
        exact .busy saves opened (Session.saving_of_beginSave?_eq_none begun)
      · cases h
  have checking (d : Desk) : d.check.1 ≠ .done (.error failure) := by
    unfold check
    rcases d.watch.claim d.workspace with ⟨_ | _, watch⟩ <;> simp
  cases a with
  | openFile path => exact showing (d.workspace.shows_openFile path) h
  | select path =>
    cases known : d.workspace.registry.contains path with
    | true => exact showing (Workspace.shows_select known) h
    | false =>
      change (d.workspace.select path).1 = _ at h
      rw [Workspace.select_of_unknown known] at h
      cases h
      exact .unknown known
  | restore => exact showing d.workspace.shows_restore h
  | save =>
    cases current : d.workspace.current? with
    | none =>
      simp only [begin, within, Workspace.save, current] at h
      cases h
      exact .unsaved current
    | some path => exact saving (beq_iff_eq.2 current)
  | savePath path => exact saving (beq_self_eq_true path)
  | check => exact absurd h (checking d)
  | focus now =>
    simp only [begin] at h
    split at h
    · exact absurd h (checking _)
    · cases h
  | edit text =>
    simp only [begin, within, Workspace.edit] at h
    split at h
    · next idle =>
      cases h
      exact .unedited rfl idle
    · cases h
  | format =>
    simp only [begin, within, Workspace.format] at h
    split at h
    · next idle =>
      cases h
      exact .unedited rfl idle
    · split at h <;> cases h
  | resolve r =>
    simp only [begin, Watch.resolve] at h
    split at h
    · next none =>
      cases h
      exact .settled none
    · split at h
      · cases h
      · split at h <;> cases h
  | _ => cases h

theorem begin_of_fails {d : Desk} {a : Act} {failure : Failure} (h : d.Fails a failure) :
    d.begin a = (.done (.error failure), d) := by
  cases h with
  | unedited edits idle =>
    cases a with
    | edit text => simp [begin, within, Workspace.edit, idle]
    | format => simp [begin, within, Workspace.format, idle]
    | _ => cases edits
  | unsaved idle => simp [begin, within, Workspace.save, idle]
  | unknown unknown => exact congrArg d.within (Workspace.select_of_unknown unknown)
  | closed saves closed => simp [begin_of_saves saves, within, Workspace.savePath, closed]
  | busy saves opened busy =>
    simp [begin_of_saves saves, within, Workspace.savePath, opened, Session.beginSave?, busy]
  | settled none => simp [begin, Watch.resolve, none, Except.map]

theorem begin_eq_error_iff {d : Desk} {a : Act} {failure : Failure} :
    (d.begin a).1 = .done (.error failure) ↔ d.Fails a failure :=
  ⟨fails_of_begin, fun fails => congrArg Prod.fst (begin_of_fails fails)⟩

theorem error_of_land {d : Desk} {pending : Pending} {result : pending.access.Result}
    {failure : Failure} (h : (d.land pending result).1 = .error failure) :
    ∃ cause, failure = .io cause := by
  cases pending with
  | opening path =>
    cases result with
    | error e => exact ⟨e, (Except.error.inj h).symm⟩
    | ok content =>
      obtain ⟨s, shown⟩ := d.workspace.shown_landOpening path content
      cases shown.symm.trans h
  | saving path text =>
    cases result with
    | error e => exact ⟨e, (Except.error.inj h).symm⟩
    | ok => cases h
  | checking ticket => cases h

end Desk

namespace Bench

theorem coherent_step (b : Bench) (e : Event) (h : b.desk.workspace.Coherent) :
    (b.step e).2.desk.workspace.Coherent := by
  cases b.move e with
  | begins event asked desk disk tasks =>
    rw [← Desk.coherent_flushed, desk, Desk.coherent_flushed]
    exact Desk.coherent_begin h _
  | lands finished desk disk tasks =>
    rw [desk, Desk.coherent_flushed]
    exact Desk.coherent_land h _ _
  | drops dropped desk disk tasks => rwa [desk, Desk.workspace_abandon]
  | rests asked finished dropped desk tasks => rwa [desk]

theorem coherent_run (u : Setup) (es : List Event) :
    (u.bench.run es).desk.workspace.Coherent :=
  invariant (fun u => Workspace.Coherent.ofSettings u.settings) coherent_step u es

/-- The workspace holds together after every run.  The generation grows exactly when the current
path changes; edits, formatting and saving are without a session exactly when no path is current;
and a file is unknown only to whoever selects it unknown or saves it unopened by its path. -/
theorem workspace_holds_together (u : Setup) (es : List Event) :
    (u.bench.run es).desk.workspace.Coherent ∧
    (∀ path s, (u.bench.run es).session? path = some s ↔
      s ∈ (u.bench.run es).desk.workspace.sessions ∧ s.path = path) ∧
    (∀ s ∈ (u.bench.run es).desk.workspace.sessions,
      ∀ t ∈ (u.bench.run es).desk.workspace.sessions, s.id = t.id → s = t) ∧
    (∀ e, (u.bench.run es).desk.workspace.Turned ((u.bench.run es).step e).2.desk.workspace) ∧
    (∀ a, a.edits = true ∨ a = .save →
      (((u.bench.run es).desk.begin a).1 = .done (.error .noActiveSession) ↔
        (u.bench.run es).current? = none)) ∧
    (∀ a path, ((u.bench.run es).desk.begin a).1 = .done (.error (.unknownFile path)) ↔
      a = .select path ∧ (u.bench.run es).desk.workspace.registry.contains path = false ∨
        a = .savePath path ∧ (u.bench.run es).session? path = none) ∧
    ∀ pending result failure,
      ((u.bench.run es).desk.land pending result).1 = .error failure →
        ∃ cause, failure = .io cause := by
  have coherent := coherent_run u es
  have stored {path : Text} {s : Session} :=
    @Workspace.session?_eq_some_iff _ coherent.opened path s
  have idle := Workspace.currentSession?_eq_none_iff coherent
  refine ⟨coherent, fun path s => stored, ?_, turned_step _, ?_, ?_, ?_⟩
  · intro s hs t ht same
    have hs' := stored.2 ⟨hs, rfl⟩
    have ht' := stored.2 ⟨ht, rfl⟩
    rw [← idsApart u es _ _ _ _ hs' ht' same] at ht'
    exact Option.some.inj (hs'.symm.trans ht')
  · intro a act
    rw [Desk.begin_eq_error_iff]
    constructor
    · intro fails
      cases fails with
      | unedited edits none => exact idle.1 none
      | unsaved none => exact none
    · intro none
      rcases act with edits | rfl
      · exact .unedited edits (idle.2 none)
      · exact .unsaved none
  · intro a path
    rw [Desk.begin_eq_error_iff]
    constructor
    · intro fails
      cases fails with
      | unknown unknown => exact .inl ⟨rfl, unknown⟩
      | closed saves closed =>
        rcases Desk.saves_cases saves with rfl | ⟨-, current⟩
        · exact .inr ⟨rfl, closed⟩
        · have opened := Workspace.isSome_session?_iff.2 (coherent.current_opened path current)
          simp [closed] at opened
    · rintro (⟨rfl, unknown⟩ | ⟨rfl, closed⟩)
      · exact .unknown unknown
      · exact .closed (beq_self_eq_true path) closed
  · intro pending result failure
    exact Desk.error_of_land

end Bench
end ScriptDesk
