import ScriptDesk.Proofs.Answer
import ScriptDesk.Proofs.Recent

/-! What a restart brings back.  The script that was current is restored if it is among the recent
files.  It need not be: a full list drops its last file when a script is added, and a script that
stays known comes into the list no more. -/

namespace ScriptDesk

theorem not_mem_take_iff {l : List α} {x : α} {n : Nat} (distinct : l.Nodup)
    (short : l.length ≤ n + 1) (listed : x ∈ l) :
    x ∉ l.take n ↔ l.length = n + 1 ∧ l.getLast? = some x := by
  constructor
  · intro cut
    have split : l.take n ++ l.drop n = l := List.take_append_drop n l
    have later : x ∈ l.drop n := by
      rw [← split, List.mem_append] at listed
      exact listed.resolve_left cut
    have size : (l.drop n).length ≤ 1 := by
      rw [List.length_drop]
      omega
    have one : (l.drop n).length = 1 := Nat.le_antisymm size (List.length_pos_of_mem later)
    obtain ⟨y, single⟩ := List.length_eq_one_iff.1 one
    obtain rfl := List.mem_singleton.1 (single ▸ later)
    rw [List.length_drop] at one
    refine ⟨by omega, ?_⟩
    rw [← split, single, List.getLast?_concat]
  · rintro ⟨full, last⟩
    obtain ⟨front, rfl⟩ := List.getLast?_eq_some_iff.1 last
    rw [List.length_append, List.length_singleton] at full
    rw [List.take_left' (by omega)]
    exact fun early => (List.nodup_append.1 distinct).2.2 x early x (List.mem_singleton_self x) rfl

namespace Registry

theorem contains_ofRecent {es : List Entry} {path : Text} :
    (ofRecent es).contains path = true ↔ path ∈ es.map (·.path) := by
  induction es with
  | nil => simp [ofRecent, empty, contains]
  | cons e es ih =>
    rw [ofRecent_cons, contains_iff, mem_paths_add, ← contains_iff, ih, List.map_cons,
      List.mem_cons, or_comm]

theorem contains_remove {r : Registry} {gone path : Text} :
    (r.remove gone).contains path = true ↔ r.contains path = true ∧ path ≠ gone := by
  rw [contains_iff, paths_remove, List.mem_filter, bne_iff_ne, contains_iff]

end Registry

namespace Settings

theorem knows_removeRecent? {s : Settings} {gone path : Text} :
    ((s.removeRecent? gone).getD s).knows path = true ↔ s.knows path = true ∧ path ≠ gone := by
  rw [removeRecent?_getD]
  simp only [knows_iff, List.mem_map, List.mem_filter, bne_iff_ne]
  constructor
  · rintro ⟨e, ⟨he, other⟩, rfl⟩
    exact ⟨⟨e, he, rfl⟩, other⟩
  · rintro ⟨⟨e, he, rfl⟩, other⟩
    exact ⟨e, ⟨he, other⟩, rfl⟩

theorem capacity_eq_succ (s : Settings) : ∃ n, s.capacity = n + 1 :=
  Nat.exists_eq_succ_of_ne_zero (by simp [capacity])

theorem knows_addRecent? {s : Settings} {e : Entry} {path : Text} {n : Nat}
    (unknown : s.knows e.path = false) (room : s.capacity = n + 1) :
    ((s.addRecent? e).getD s).knows path = true ↔
      path = e.path ∨ path ∈ (s.recentFiles.map (·.path)).take n := by
  rw [addRecent?_getD unknown, knows_iff, room, List.take_succ_cons, List.map_cons, List.mem_cons,
    List.map_take]

theorem knows_of_knows_addRecent? {s : Settings} {e : Entry} {path : Text}
    (h : ((s.addRecent? e).getD s).knows path = true) : path = e.path ∨ s.knows path = true := by
  cases unknown : s.knows e.path with
  | true =>
    have same : s.addRecent? e = none := if_pos unknown
    rw [same] at h
    exact .inr h
  | false =>
    obtain ⟨n, room⟩ := s.capacity_eq_succ
    exact ((knows_addRecent? unknown room).1 h).imp_right fun listed =>
      knows_iff.2 (List.mem_of_mem_take listed)

end Settings

namespace Bench

structure Forgets (b : Bench) (path : Text) : Prop where
  known : b.registry.contains path = true
  forgotten : b.settings.knows path = false

structure Crowds (b : Bench) (e : Event) (path : Text) : Prop where
  full : b.settings.recentFiles.length = b.settings.capacity
  last : (b.settings.recentFiles.map (·.path)).getLast? = some path
  grows : ∃ other, b.registry.contains other = false ∧ (b.step e).2.registry.contains other = true

structure Adds (b : Bench) (e : Event) (other : Text) : Prop where
  unknown : b.registry.contains other = false
  known_iff : ∀ path,
    (b.step e).2.registry.contains path = true ↔ b.registry.contains path = true ∨ path = other
  knows : ∀ path, (b.step e).2.settings.knows path =
    ((b.settings.addRecent? (.ofPath other)).getD b.settings).knows path

structure Keeps (b : Bench) (e : Event) : Prop where
  known : ∀ path, b.asked? e ≠ some (.remove path) → b.registry.contains path = true →
    (b.step e).2.registry.contains path = true
  listed : ∀ path, (b.step e).2.registry.contains path = true →
    b.registry.contains path = true ∧ (b.step e).2.settings.knows path = b.settings.knows path

theorem adds_or_keeps (b : Bench) (e : Event) : (∃ other, b.Adds e other) ∨ b.Keeps e := by
  have books := b.books e
  generalize registry : (b.step e).2.registry = r, settings : (b.step e).2.settings = s at books
  cases books with
  | keeps theme =>
    refine .inr ⟨fun path _ known => by rwa [registry], fun path known => ?_⟩
    rw [registry] at known
    exact ⟨known, settings ▸ rfl⟩
  | revisits here =>
    refine .inr ⟨fun path _ known => by rwa [registry], fun path known => ?_⟩
    rw [registry] at known
    exact ⟨known, settings ▸ rfl⟩
  | @adds other unknown =>
    refine .inl ⟨other, unknown, fun path => ?_, fun path => settings ▸ rfl⟩
    rw [registry, Registry.contains_iff, Registry.contains_iff]
    simp [Registry.paths, Entry.ofPath]
  | @removes gone asked =>
    refine .inr ⟨fun path kept known => ?_, fun path known => ?_⟩
    · rw [registry, Registry.contains_remove]
      refine ⟨known, ?_⟩
      rintro rfl
      exact kept asked
    · rw [registry, Registry.contains_remove] at known
      refine ⟨known.1, ?_⟩
      rw [settings, Bool.eq_iff_iff, Settings.knows_removeRecent?]
      exact and_iff_left known.2

theorem forgets_step {b : Bench} {e : Event} {path : Text} (h : b.Forgets path)
    (kept : b.asked? e ≠ some (.remove path)) : (b.step e).2.Forgets path := by
  obtain ⟨known, forgotten⟩ := h
  rcases b.adds_or_keeps e with ⟨other, adds⟩ | keeps
  · refine ⟨(adds.known_iff path).2 (.inl known), ?_⟩
    rw [adds.knows, ← Bool.not_eq_true]
    intro knows
    rcases Settings.knows_of_knows_addRecent? knows with rfl | knows
    · simp [adds.unknown] at known
    · simp [forgotten] at knows
  · have still := keeps.known path kept known
    exact ⟨still, (keeps.listed path still).2.trans forgotten⟩

theorem forgets_run {b : Bench} {es : List Event} {path : Text} (h : b.Forgets path)
    (kept : ∀ x ∈ b.steps es, x.1.asked? x.2 ≠ some (.remove path)) : (b.run es).Forgets path := by
  induction es generalizing b with
  | nil => exact h
  | cons e es ih =>
    obtain ⟨here, later⟩ := List.forall_mem_cons.1 kept
    exact ih (forgets_step h here) later

theorem forgets_iff_crowds {given : Settings} {b : Bench} {e : Event} {path : Text}
    (follows : Follows given b.registry b.settings) (distinct : b.registry.paths.Nodup)
    (short : b.settings.recentFiles.length ≤ b.settings.capacity)
    (knows : b.settings.knows path = true) :
    (b.step e).2.Forgets path ↔ b.Crowds e path := by
  rcases b.adds_or_keeps e with ⟨other, adds⟩ | keeps
  · obtain ⟨n, room⟩ := b.settings.capacity_eq_succ
    have known := follows.known knows
    have older : path ≠ other := by
      rintro rfl
      simp [adds.unknown] at known
    have cut : (b.step e).2.settings.knows path = false ↔
        path ∉ (b.settings.recentFiles.map (·.path)).take n := by
      rw [adds.knows, ← Bool.not_eq_true,
        Settings.knows_addRecent? (follows.unknown adds.unknown) room, not_or]
      exact and_iff_right older
    rw [room] at short
    rw [not_mem_take_iff (follows.distinct distinct) (by simpa using short)
      (Settings.knows_iff.1 knows), List.length_map] at cut
    constructor
    · rintro ⟨-, forgotten⟩
      obtain ⟨full, last⟩ := cut.1 forgotten
      exact ⟨full.trans room.symm, last, other, adds.unknown, (adds.known_iff other).2 (.inr rfl)⟩
    · rintro ⟨full, last, -⟩
      exact ⟨(adds.known_iff path).2 (.inl known), cut.2 ⟨full.trans room, last⟩⟩
  · constructor
    · rintro ⟨known, forgotten⟩
      rw [(keeps.listed path known).2, knows] at forgotten
      cases forgotten
    · rintro ⟨-, -, other, unknown, known⟩
      rw [(keeps.listed other known).1] at unknown
      cases unknown

theorem knows_of_forgets {given : Settings} {b : Bench} {e : Event} {path : Text}
    (follows : Follows given b.registry b.settings) (before : ¬ b.Forgets path)
    (after : (b.step e).2.Forgets path) : b.settings.knows path = true := by
  obtain ⟨known, forgotten⟩ := after
  have listed (known : b.registry.contains path = true) : b.settings.knows path = true := by
    rw [← Bool.not_eq_false]
    exact fun forgotten => before ⟨known, forgotten⟩
  rcases b.adds_or_keeps e with ⟨other, adds⟩ | keeps
  · rcases (adds.known_iff path).1 known with known | rfl
    · exact listed known
    · obtain ⟨n, room⟩ := b.settings.capacity_eq_succ
      have newest : ((b.settings.addRecent? (.ofPath path)).getD b.settings).knows path = true :=
        (Settings.knows_addRecent? (follows.unknown adds.unknown) room).2 (.inl rfl)
      rw [adds.knows, newest] at forgotten
      cases forgotten
  · exact listed (keeps.listed path known).1

theorem unknown_step_of_remove {b : Bench} {e : Event} {path : Text}
    (asked : b.asked? e = some (.remove path)) :
    (b.step e).2.registry.contains path = false := by
  have removed : (b.step e).2.registry = b.registry.remove path :=
    (congrArg (·.workspace.registry) (step_of_asked asked).1).trans
      (Workspace.registry_remember _ _)
  rw [removed, ← Bool.not_eq_true, Registry.contains_remove]
  exact fun known => known.2 rfl

/-- The path was crowded out of the list of recent files, and not removed since. -/
def CrowdedOut (b : Bench) (es : List Event) (path : Text) : Prop :=
  ∃ es₁ e es₂, es = es₁ ++ e :: es₂ ∧ (b.run es₁).Crowds e path ∧
    ∀ x ∈ ((b.run es₁).step e).2.steps es₂, x.1.asked? x.2 ≠ some (.remove path)

theorem forgets_iff_crowdedOut {u : Setup} (fresh : u.settings.recentFiles = [])
    (es : List Event) (path : Text) :
    (u.bench.run es).Forgets path ↔ u.bench.CrowdedOut es path := by
  have follows (es : List Event) := follows_run (u := u) (by simp [fresh]) es
  have known (es : List Event) := (coherent_run u es).known
  have short (es : List Event) : (u.bench.run es).settings.recentFiles.length ≤
      (u.bench.run es).settings.capacity := by
    have bounded := (follows es).bounded
    rw [← (follows es).capacity, fresh, List.length_nil] at bounded
    omega
  constructor
  · intro now
    have start : ¬ u.bench.Forgets path := by
      rintro ⟨known, -⟩
      simp [registry, Setup.bench, Desk.ofSettings, Workspace.ofSettings, fresh,
        Registry.ofRecent, Registry.empty, Registry.contains] at known
    obtain ⟨es₁, e, es₂, split, before, since⟩ := exists_since (·.Forgets path) start now
    have after := since _ (self_mem_states _ es₂)
    have knows := knows_of_forgets (follows es₁) before after
    have crowds := (forgets_iff_crowds (follows es₁) (known es₁) (short es₁) knows).1 after
    refine ⟨es₁, e, es₂, split, crowds, fun x hx removed => ?_⟩
    have still := (since _ (step_mem_states hx)).known
    rw [unknown_step_of_remove removed] at still
    cases still
  · rintro ⟨es₁, e, es₂, rfl, crowds, kept⟩
    have knows := Settings.knows_iff.2 (List.mem_of_getLast? crowds.last)
    have after := (forgets_iff_crowds (follows es₁) (known es₁) (short es₁) knows).2 crowds
    rw [run_append, run_cons]
    exact forgets_run after kept

end Bench

namespace Setup

structure Restores (u : Setup) (path content : Text) : Prop where
  waits : (u.bench.step (.start 0 (.act .restore))).1 = .waits
  shows : ((u.bench.run [.start 0 (.act .restore)]).step (.finish 0)).1 =
    .outcome (.ok (.session (.loaded 1 path content)))
  current : (u.bench.run [.start 0 (.act .restore), .finish 0]).current? = some path

structure RestoresNothing (u : Setup) : Prop where
  answers : (u.bench.step (.start 0 (.act .restore))).1 = .outcome (.ok .nothing)
  idle : (u.bench.run [.start 0 (.act .restore)]).current? = none

theorem begin_restore_of_active {u : Setup} {path : Text}
    (active : u.settings.activeFile = some path) :
    u.bench.desk.begin .restore =
      (if u.settings.knows path then .waits (.opening path) else .done (.ok .nothing),
        u.bench.desk) := by
  have known : (Registry.ofRecent u.settings.recentFiles).contains path =
      u.settings.knows path := by
    rw [Bool.eq_iff_iff, Registry.contains_ofRecent, Settings.knows_iff]
  cases knows : u.settings.knows path <;>
    simp [bench, Desk.ofSettings, Desk.begin, Desk.within, Workspace.ofSettings, Workspace.restore,
      Workspace.select, Workspace.openFile, Workspace.session?, active, known, knows]

theorem restores_of_knows {u : Setup} {path content : Text}
    (active : u.settings.activeFile = some path) (knows : u.settings.knows path = true)
    (readable : u.disk.read path = .ok content) : u.Restores path content := by
  have begun : u.bench.desk.begin .restore = (.waits (.opening path), u.bench.desk) := by
    rw [begin_restore_of_active active, if_pos knows]
  have waits : u.bench.step (.start 0 (.act .restore)) =
      (.waits, { u.bench with tasks := [⟨0, .opening path, none⟩] }) := by
    simp only [Bench.step, Bench.start, Bench.begin, begun]
    rfl
  have opened : (u.bench.desk.workspace.receive path content).session? path =
      some (.loaded 1 path content) := by
    rw [Workspace.session?_receive, if_pos rfl]
    rfl
  have lands : u.bench.desk.workspace.landOpening path (u.disk.read path) =
      (.ok (.session (.loaded 1 path content)),
        ((u.bench.desk.workspace.receive path content).makeCurrent path).2) := by
    rw [readable]
    simp only [Workspace.landOpening, Workspace.makeCurrent_of_opened opened]
    rfl
  have finished : ({ u.bench with tasks := [⟨0, .opening path, none⟩] } : Bench).finished?
      (.finish 0) = some ⟨0, .opening path, none⟩ := rfl
  refine ⟨congrArg Prod.fst waits, ?_, ?_⟩
  · rw [Bench.run_cons, Bench.run_nil, waits, Bench.echo_of_finished finished]
    exact congrArg Echo.outcome (congrArg Prod.fst lands)
  · rw [Bench.run_cons, Bench.run_cons, Bench.run_nil, waits, Bench.current?,
      (Bench.step_of_finished finished).1, Desk.current?_flushed]
    have shown := congrArg (fun r : Result × Workspace => r.2.current?) lands
    refine shown.trans ?_
    rw [Workspace.current?, Workspace.registry_makeCurrent, Workspace.registry_turnTo]

theorem restoresNothing_of_unknown {u : Setup} {path : Text}
    (active : u.settings.activeFile = some path) (forgotten : u.settings.knows path = false) :
    u.RestoresNothing := by
  have begun : u.bench.desk.begin .restore = (.done (.ok .nothing), u.bench.desk) := by
    simp [begin_restore_of_active active, forgotten]
  have asked : u.bench.asked? (.start 0 (.act .restore)) = some .restore := rfl
  constructor
  · exact Bench.answers_act.1 (Bench.answers_of_done asked (congrArg Prod.fst begun) rfl)
  · rw [Bench.run_cons, Bench.run_nil, Bench.step_of_idle rfl asked begun]
    exact Registry.current_ofRecent _

end Setup

namespace Bench

/-- What was current is restored on the same settings unless it was crowded out of the list of
recent files; then nothing is. -/
theorem restart_restores_unless_crowded_out {u v : Setup} {es : List Event} {path content : Text}
    (fresh : u.settings.recentFiles = []) (current : (u.bench.run es).current? = some path)
    (same : v.settings = (u.bench.run es).settings) (readable : v.disk.read path = .ok content) :
    (v.Restores path content ↔ ¬ u.bench.CrowdedOut es path) ∧
      (v.RestoresNothing ↔ u.bench.CrowdedOut es path) := by
  have active : v.settings.activeFile = some path := by
    rw [same]
    exact (follows_run (by simp [fresh]) es).active path current
  have coherent := coherent_run u es
  have known : (u.bench.run es).registry.contains path = true :=
    Registry.contains_iff.2 (coherent.opened_known path (coherent.current_opened path current))
  rw [← forgets_iff_crowdedOut fresh]
  cases knows : v.settings.knows path with
  | true =>
    have restores := Setup.restores_of_knows active knows readable
    have listed : ¬ (u.bench.run es).Forgets path := by
      rintro ⟨-, forgotten⟩
      rw [← same, knows] at forgotten
      cases forgotten
    refine ⟨iff_of_true restores listed, iff_of_false ?_ listed⟩
    intro nothing
    cases nothing.answers.symm.trans restores.waits
  | false =>
    have nothing := Setup.restoresNothing_of_unknown active knows
    have forgotten : (u.bench.run es).Forgets path := ⟨known, same ▸ knows⟩
    refine ⟨iff_of_false ?_ (not_not.2 forgotten), iff_of_true nothing forgotten⟩
    intro restores
    cases nothing.answers.symm.trans restores.waits

theorem reselected_file_restored :
    let u : Setup :=
      { Setup.ofFiles [(['a'], ['x']), (['b'], ['y'])] with settings := { maxRecent := 2 } }
    let es := [.start 0 (.act (.openFile ['a'])), .finish 0, .start 1 (.act (.openFile ['b'])),
      .finish 1, .start 2 (.act (.select ['a']))]
    let v := { u with settings := (u.bench.run es).settings }
    v.settings.recentFiles = [.ofPath ['b'], .ofPath ['a']] ∧ v.Restores ['a'] ['x'] ∧
      ¬ u.bench.CrowdedOut es ['a'] := by
  intro u es v
  have fresh : u.settings.recentFiles = [] := rfl
  have current : (u.bench.run es).current? = some ['a'] := by decide
  have listed : ¬ u.bench.CrowdedOut es ['a'] := by
    rw [← forgets_iff_crowdedOut fresh]
    rintro ⟨-, forgotten⟩
    revert forgotten
    decide
  have same : v.settings = (u.bench.run es).settings := by simp only [v]
  have readable : v.disk.read ['a'] = .ok ['x'] := rfl
  obtain ⟨restores, -⟩ := restart_restores_unless_crowded_out fresh current same readable
  exact ⟨by decide, restores.2 listed, listed⟩

/-- With room for one, opening the newer file drops the older from the list, and selecting it again
does not bring it back: it is current and active, and the next start restores nothing. -/
theorem reselected_file_not_restored :
    let u : Setup :=
      { Setup.ofFiles [(['a'], ['x']), (['b'], ['y'])] with settings := { maxRecent := 1 } }
    let b := u.bench.run [.start 0 (.act (.openFile ['a'])), .finish 0,
      .start 1 (.act (.openFile ['b'])), .finish 1, .start 2 (.act (.select ['a']))]
    let v := { u with settings := b.settings }
    u.settings.recentFiles = [] ∧ u.settings.activeFile = none ∧ u.location = none ∧
      b.current? = some ['a'] ∧ v.settings.activeFile = some ['a'] ∧
      v.settings.recentFiles = [.ofPath ['b']] ∧ v.disk.read ['a'] = .ok ['x'] ∧
      v.RestoresNothing ∧ ¬ v.Restores ['a'] ['x'] := by
  intro u b v
  have active : v.settings.activeFile = some ['a'] := by decide
  have nothing : v.RestoresNothing := Setup.restoresNothing_of_unknown active (by decide)
  refine ⟨rfl, rfl, rfl, by decide, active, by decide, rfl, nothing, fun restores => ?_⟩
  cases nothing.answers.symm.trans restores.waits

end Bench
end ScriptDesk
