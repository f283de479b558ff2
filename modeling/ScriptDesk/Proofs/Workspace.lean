import ScriptDesk.Workspace.Basic

namespace ScriptDesk

theorem Registry.contains_add (r : Registry) (e : Entry) : (r.add e).contains e.path = true := by
  unfold add
  split
  · assumption
  · simp [contains]

@[simp] theorem Registry.current_add (r : Registry) (e : Entry) :
    (r.add e).current = r.current := by
  unfold add
  split <;> rfl

theorem Registry.current_remove_eq_some {r : Registry} {path other : Text} :
    (r.remove path).current = some other ↔ r.current = some other ∧ other ≠ path := by
  unfold remove
  simp only
  split
  · next here => simp [here, eq_comm]
  · next elsewhere =>
    constructor
    · intro current
      refine ⟨current, ?_⟩
      rintro rfl
      exact elsewhere current
    · exact fun h => h.1

namespace Session

@[simp] theorem path_edit (text : Text) (s : Session) : (s.edit text).path = s.path := rfl

@[simp] theorem path_reset (text : Text) (s : Session) : (s.reset text).path = s.path := rfl

@[simp] theorem path_finishSave (written : Option Text) (s : Session) :
    (s.finishSave written).path = s.path := by
  cases written <;> rfl

theorem edit_working (s : Session) : s.edit s.working = s := rfl

theorem beginSave?_eq_some {s begun : Session} (h : s.beginSave? = some begun) :
    begun = { s with saving := true } := by
  unfold beginSave? at h
  split at h
  · cases h
  · exact (Option.some.inj h).symm

theorem free_of_beginSave?_eq_some {s begun : Session} (h : s.beginSave? = some begun) :
    s.saving = false := by
  unfold beginSave? at h
  split at h
  · cases h
  · next free => simpa using free

theorem saving_of_beginSave?_eq_none {s : Session} (h : s.beginSave? = none) : s.saving = true := by
  unfold beginSave? at h
  split at h
  · assumption
  · cases h

end Session

namespace Workspace

theorem path_of_session? {w : Workspace} {path : Text} {s : Session}
    (h : w.session? path = some s) : s.path = path := Sessions.path_of_get? h

theorem currentSession?_eq_some {w : Workspace} {s : Session} :
    w.currentSession? = some s ↔ w.current? = some s.path ∧ w.session? s.path = some s := by
  constructor
  · intro h
    obtain ⟨path, hc, hs⟩ := Option.bind_eq_some_iff.1 h
    obtain rfl := path_of_session? hs
    exact ⟨hc, hs⟩
  · rintro ⟨hc, hs⟩
    exact Option.bind_eq_some_iff.2 ⟨s.path, hc, hs⟩

theorem session?_modify (w : Workspace) {path : Text} {f : Session → Session}
    (h : ∀ s, s.path = path → (f s).path = path) (other : Text) :
    (w.modify path f).session? other =
      if other = path then (w.session? other).map f else w.session? other :=
  Sessions.get?_modify w.sessions path other f h

@[simp] theorem sessions_remember (w : Workspace) (change : Option Settings) :
    (w.remember change).sessions = w.sessions := by
  cases change <;> rfl

@[simp] theorem nextId_remember (w : Workspace) (change : Option Settings) :
    (w.remember change).nextId = w.nextId := by
  cases change <;> rfl

@[simp] theorem registry_remember (w : Workspace) (change : Option Settings) :
    (w.remember change).registry = w.registry := by
  cases change <;> rfl

@[simp] theorem generation_remember (w : Workspace) (change : Option Settings) :
    (w.remember change).generation = w.generation := by
  cases change <;> rfl

@[simp] theorem settings_remember (w : Workspace) (change : Option Settings) :
    (w.remember change).settings = change.getD w.settings := by
  cases change <;> rfl

@[simp] theorem sessions_turnTo (w : Workspace) (path : Text) :
    (w.turnTo path).sessions = w.sessions := by
  simp only [turnTo]
  split <;> rfl

@[simp] theorem nextId_turnTo (w : Workspace) (path : Text) :
    (w.turnTo path).nextId = w.nextId := by
  simp only [turnTo]
  split <;> rfl

@[simp] theorem settings_turnTo (w : Workspace) (path : Text) :
    (w.turnTo path).settings = w.settings := by
  simp only [turnTo]
  split <;> rfl

@[simp] theorem sessions_note (w : Workspace) (path : Text) (added : Bool) :
    (w.note path added).sessions = w.sessions := by
  cases added <;> simp [note]

@[simp] theorem nextId_note (w : Workspace) (path : Text) (added : Bool) :
    (w.note path added).nextId = w.nextId := by
  cases added <;> simp [note]

@[simp] theorem registry_note (w : Workspace) (path : Text) (added : Bool) :
    (w.note path added).registry = w.registry := by
  cases added <;> simp [note]

@[simp] theorem generation_note (w : Workspace) (path : Text) (added : Bool) :
    (w.note path added).generation = w.generation := by
  cases added <;> simp [note]

@[simp] theorem sessions_makeCurrent (w : Workspace) (path : Text) :
    (w.makeCurrent path).2.sessions = w.sessions := by
  simp only [makeCurrent]
  split <;> simp

@[simp] theorem nextId_makeCurrent (w : Workspace) (path : Text) :
    (w.makeCurrent path).2.nextId = w.nextId := by
  simp only [makeCurrent]
  split <;> simp

@[simp] theorem registry_makeCurrent (w : Workspace) (path : Text) :
    (w.makeCurrent path).2.registry = (w.turnTo path).registry := by
  simp only [makeCurrent]
  split <;> simp

@[simp] theorem generation_makeCurrent (w : Workspace) (path : Text) :
    (w.makeCurrent path).2.generation = (w.turnTo path).generation := by
  simp only [makeCurrent]
  split <;> simp

theorem session?_of_sessions {w w' : Workspace} (h : w'.sessions = w.sessions) (path : Text) :
    w'.session? path = w.session? path := by
  simp only [session?, h]

theorem makeCurrent_of_opened {w : Workspace} {path : Text} {s : Session}
    (opened : w.session? path = some s) :
    w.makeCurrent path = (.ok s, (w.turnTo path).note path (!w.registry.contains path)) := by
  have turned : (w.turnTo path).session? path = some s :=
    (session?_of_sessions (w.sessions_turnTo path) path).trans opened
  simp only [makeCurrent, turned]

inductive Shows (w : Workspace) : Stage × Workspace → Prop
  | reads (path : Text) : Shows w (.waits (.opening path), w)
  | shown {path : Text} {s : Session} (opened : w.session? path = some s) :
      Shows w (.done (.ok (.session s)), (w.makeCurrent path).2)
  | nothing : Shows w (.done (.ok .nothing), w)

theorem shows_makeCurrentStage {w : Workspace} {path : Text} {s : Session}
    (opened : w.session? path = some s) : Shows w (w.makeCurrentStage path) := by
  have shown : w.makeCurrentStage path =
      (.done (.ok (.session s)), (w.makeCurrent path).2) := by
    simp only [makeCurrentStage, makeCurrent_of_opened opened]
    rfl
  exact shown ▸ .shown opened

theorem shows_openFile (w : Workspace) (path : Text) : Shows w (w.openFile path) := by
  unfold openFile
  split
  · next held =>
    cases opened : w.session? path with
    | none => simp [opened] at held
    | some s => exact shows_makeCurrentStage opened
  · exact .reads path

theorem shows_select {w : Workspace} {path : Text} (known : w.registry.contains path = true) :
    Shows w (w.select path) := by
  unfold select
  simp only [known, Bool.not_true, Bool.false_eq_true, if_false]
  split
  · next opened =>
    obtain ⟨s, opened⟩ := Option.isSome_iff_exists.1 opened
    exact shows_makeCurrentStage opened
  · exact shows_openFile w path

theorem select_of_unknown {w : Workspace} {path : Text}
    (unknown : w.registry.contains path = false) :
    w.select path = (.done (.error (.unknownFile path)), w) := by
  simp [select, unknown]

theorem shows_restore (w : Workspace) : Shows w w.restore := by
  unfold restore
  split
  · exact .nothing
  · split
    · next known => exact shows_select known
    · exact .nothing

def Opens (w w' : Workspace) : Prop :=
  w' = w ∨ ∃ path s, w.session? path = some s ∧ w' = (w.makeCurrent path).2

theorem Shows.opens {w : Workspace} {r : Stage × Workspace} (h : Shows w r) : Opens w r.2 := by
  cases h with
  | reads path => exact .inl rfl
  | shown opened => exact .inr ⟨_, _, opened, rfl⟩
  | nothing => exact .inl rfl

theorem opens_select (w : Workspace) (path : Text) : Opens w (w.select path).2 := by
  cases known : w.registry.contains path with
  | true => exact (shows_select known).opens
  | false => exact .inl (congrArg Prod.snd (select_of_unknown known))

theorem Opens.sessions {w w' : Workspace} (h : Opens w w') : w'.sessions = w.sessions := by
  rcases h with rfl | ⟨path, s, -, rfl⟩
  · rfl
  · simp

theorem Opens.nextId {w w' : Workspace} (h : Opens w w') : w'.nextId = w.nextId := by
  rcases h with rfl | ⟨path, s, -, rfl⟩
  · rfl
  · simp

@[simp] theorem sessions_remove (w : Workspace) (path : Text) :
    (w.remove path).sessions = w.sessions.erase path := by
  simp [remove]

@[simp] theorem nextId_remove (w : Workspace) (path : Text) :
    (w.remove path).nextId = w.nextId := by
  simp [remove]

def paths (w : Workspace) : List Text := w.sessions.map (·.path)

theorem paths_modify {w : Workspace} {path : Text} {f : Session → Session}
    (h : ∀ s, s.path = path → (f s).path = path) : (w.modify path f).paths = w.paths := by
  simp only [paths, modify, Sessions.modify, List.map_map]
  refine List.map_congr_left fun s _ => ?_
  by_cases here : s.path = path <;> simp [here, h]

/-- Two workspaces that differ in their sessions only, and not in the paths of these. -/
def Touches (w w' : Workspace) : Prop :=
  w'.paths = w.paths ∧ ∃ sessions, w' = { w with sessions }

theorem touches_self (w : Workspace) : Touches w w := ⟨rfl, w.sessions, rfl⟩

theorem touches_modify (w : Workspace) {path : Text} {f : Session → Session}
    (h : ∀ s, s.path = path → (f s).path = path) : Touches w (w.modify path f) :=
  ⟨paths_modify h, w.sessions.modify path f, rfl⟩

theorem touches_edit (w : Workspace) (text : Text) : Touches w (w.edit text).2 := by
  unfold edit
  split
  · exact touches_self w
  · exact touches_modify w (by simp)

theorem touches_format (w : Workspace) : Touches w w.format.2 := by
  unfold format
  split
  · exact touches_self w
  · simp only
    split
    · exact touches_self w
    · exact touches_modify w (by simp)

theorem touches_savePath (w : Workspace) (path : Text) : Touches w (w.savePath path).2 := by
  unfold savePath
  split
  · exact touches_self w
  · next s opened =>
    split
    · exact touches_self w
    · next begun hb =>
      have same : begun.path = path := by
        rw [Session.beginSave?_eq_some hb, ← path_of_session? opened]
      exact touches_modify w fun _ _ => same

theorem touches_save (w : Workspace) : Touches w w.save.2 := by
  unfold save
  split
  · exact touches_self w
  · exact touches_savePath w _

theorem touches_landSaving (w : Workspace) (path text : Text) (write : Except IoError Unit) :
    Touches w (w.landSaving path text write).2 := by
  cases write <;> exact touches_modify w (by simp)

theorem Touches.nextId {w w' : Workspace} (h : Touches w w') : w'.nextId = w.nextId := by
  obtain ⟨-, sessions, rfl⟩ := h
  rfl

theorem Touches.outbox {w w' : Workspace} (h : Touches w w') : w'.outbox = w.outbox := by
  obtain ⟨-, sessions, rfl⟩ := h
  rfl

theorem nextId_receive (w : Workspace) (path content : Text) :
    (w.receive path content).nextId =
      if (w.session? path).isSome then w.nextId else w.nextId + 1 := by
  unfold receive
  cases w.session? path with
  | none => rfl
  | some s =>
    simp only
    split <;> rfl

theorem registry_receive (w : Workspace) (path content : Text) :
    (w.receive path content).registry = w.registry := by
  unfold receive
  split
  · rfl
  · split <;> rfl

theorem settings_receive (w : Workspace) (path content : Text) :
    (w.receive path content).settings = w.settings := by
  unfold receive
  split
  · rfl
  · split <;> rfl

theorem generation_receive (w : Workspace) (path content : Text) :
    (w.receive path content).generation = w.generation := by
  unfold receive
  split
  · rfl
  · split <;> rfl

def Turned (w w' : Workspace) : Prop :=
  w'.current? = w.current? ∧ w'.generation = w.generation ∨
    w'.current? ≠ w.current? ∧ w'.generation = w.generation + 1

theorem Turned.of_eq {w w' : Workspace} (registry : w'.registry = w.registry)
    (generation : w'.generation = w.generation) : Turned w w' :=
  .inl ⟨congrArg Registry.current registry, generation⟩

theorem Touches.turned {w w' : Workspace} (h : Touches w w') : Turned w w' := by
  obtain ⟨-, sessions, rfl⟩ := h
  exact .of_eq rfl rfl

theorem turned_turnTo (w : Workspace) (path : Text) : Turned w (w.turnTo path) := by
  have known : (w.registry.add (.ofPath path)).contains path = true := w.registry.contains_add _
  by_cases h : w.registry.current = some path
  · refine .inl ⟨?_, ?_⟩ <;> simp [turnTo, current?, h]
  · have turned : (w.turnTo path).current? = some path := by
      simp [turnTo, current?, h, Registry.setCurrent, known]
    refine .inr ⟨?_, ?_⟩
    · rw [turned]
      exact Ne.symm h
    · simp [turnTo, h]

theorem turned_makeCurrent (w : Workspace) (path : Text) : Turned w (w.makeCurrent path).2 := by
  simpa [Turned, current?] using turned_turnTo w path

theorem Opens.turned {w w' : Workspace} (h : Opens w w') : Turned w w' := by
  rcases h with rfl | ⟨path, s, -, rfl⟩
  · exact .of_eq rfl rfl
  · exact turned_makeCurrent w path

theorem snd_landOpening (w : Workspace) (path content : Text) :
    (w.landOpening path (.ok content)).2 = ((w.receive path content).makeCurrent path).2 := rfl

theorem turned_landOpening (w : Workspace) (path : Text) (read : Except IoError Text) :
    Turned w (w.landOpening path read).2 := by
  cases read with
  | error e => exact .of_eq rfl rfl
  | ok content =>
    have turned := turned_makeCurrent (w.receive path content) path
    simpa only [Turned, current?, registry_receive, generation_receive, snd_landOpening]
      using turned

theorem current?_remove_ne (w : Workspace) (path : Text) :
    (w.remove path).current? ≠ some path := by
  simp only [current?, remove, registry_remember]
  exact fun current => (Registry.current_remove_eq_some.1 current).2 rfl

theorem turned_remove (w : Workspace) (path : Text) : Turned w (w.remove path) := by
  by_cases h : w.registry.current = some path
  · refine .inr ⟨?_, ?_⟩ <;> simp [remove, current?, Registry.remove, h]
  · refine .inl ⟨?_, ?_⟩ <;> simp [remove, current?, Registry.remove, h]

end Workspace
end ScriptDesk
