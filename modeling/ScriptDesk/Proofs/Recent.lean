import ScriptDesk.Proofs.Coherence

namespace ScriptDesk

namespace Settings

theorem knows_iff {s : Settings} {path : Text} :
    s.knows path = true ↔ path ∈ s.recentFiles.map (·.path) := by
  simp [knows]

theorem addRecent?_getD {s : Settings} {e : Entry} (unknown : s.knows e.path = false) :
    (s.addRecent? e).getD s =
      { s with recentFiles := (e :: s.recentFiles).take s.capacity } := by
  simp [addRecent?, unknown]

theorem removeRecent?_getD (s : Settings) (path : Text) :
    (s.removeRecent? path).getD s =
      { s with
        recentFiles := s.recentFiles.filter (·.path != path)
        activeFile := if s.activeFile = some path then none else s.activeFile } := by
  unfold removeRecent?
  split
  · rfl
  · next absent =>
    simp only [Bool.or_eq_true, beq_iff_eq, knows_iff, List.mem_map, not_or, not_exists,
      not_and] at absent
    have kept : s.recentFiles.filter (·.path != path) = s.recentFiles :=
      List.filter_eq_self.2 fun e he => bne_iff_ne.2 (absent.1 e he)
    simp [kept, absent.2]

theorem setActive?_getD (s : Settings) (path : Option Text) :
    (s.setActive? path).getD s = { s with activeFile := path } := by
  unfold setActive?
  split
  · next same => simp [← same]
  · rfl

end Settings

namespace Registry

theorem add_of_unknown {r : Registry} {e : Entry} (unknown : r.contains e.path = false) :
    r.add e = { r with known := r.known ++ [e] } := by
  simp [add, unknown]

theorem ofRecent_cons (e : Entry) (es : List Entry) : ofRecent (e :: es) = (ofRecent es).add e := by
  simp [ofRecent]

theorem entries_ofRecent {es : List Entry} (distinct : (es.map (·.path)).Nodup) :
    (ofRecent es).entries = es := by
  induction es with
  | nil => rfl
  | cons e es ih =>
    rw [List.map_cons, List.nodup_cons] at distinct
    obtain ⟨fresh, others⟩ := distinct
    have known : (ofRecent es).known = es.reverse :=
      List.reverse_eq_iff.1 (ih others)
    have unknown : (ofRecent es).contains e.path = false := by
      simpa [contains, known] using fresh
    simp [ofRecent_cons, add_of_unknown unknown, entries, known]

theorem entries_remove (r : Registry) (path : Text) :
    (r.remove path).entries = r.entries.filter (·.path != path) := by
  simp [entries, remove, List.filter_reverse]

end Registry

theorem Workspace.settings_note (w : Workspace) (path : Text) (added : Bool) :
    (w.note path added).settings =
      { (if added then (w.settings.addRecent? (.ofPath path)).getD w.settings else w.settings) with
        activeFile := some path } := by
  cases added <;> simp [note, Settings.setActive?_getD]

namespace Bench

def registry (b : Bench) : Registry := b.desk.workspace.registry

def settings (b : Bench) : Settings := b.desk.workspace.settings

inductive Books (b : Bench) (e : Event) : Registry → Settings → Prop
  | keeps (theme : Theme) : Books b e b.registry (b.settings.setTheme theme)
  | revisits {path : Text} (known : b.registry.contains path = true) :
      Books b e { b.registry with current := some path } { b.settings with activeFile := some path }
  | adds {path : Text} (unknown : b.registry.contains path = false) :
      Books b e ⟨b.registry.known ++ [.ofPath path], some path⟩
        { (b.settings.addRecent? (.ofPath path)).getD b.settings with activeFile := some path }
  | removes {path : Text} (asked : b.asked? e = some (.remove path)) :
      Books b e (b.registry.remove path) ((b.settings.removeRecent? path).getD b.settings)

theorem books_of_shown {b : Bench} {e : Event} {w : Workspace} {path : Text} {s : Session}
    (registry : w.registry = b.registry) (settings : w.settings = b.settings)
    (opened : w.session? path = some s) :
    b.Books e (w.makeCurrent path).2.registry (w.makeCurrent path).2.settings := by
  have shown := Workspace.makeCurrent_of_opened opened
  rw [Workspace.registry_makeCurrent, Workspace.registry_turnTo, shown, Workspace.settings_note,
    Workspace.settings_turnTo, registry, settings]
  cases known : b.registry.contains path with
  | true =>
    have same : b.registry.add (.ofPath path) = b.registry := if_pos known
    rw [same]
    exact .revisits known
  | false =>
    rw [Registry.add_of_unknown known]
    exact .adds known

theorem books_of_touches {b : Bench} {w : Workspace} (touches : b.desk.workspace.Touches w)
    (e : Event) : b.Books e w.registry w.settings := by
  obtain ⟨-, sessions, rfl⟩ := touches
  exact .keeps b.settings.theme

theorem books_begin {b : Bench} {e : Event} {a : Act} (asked : b.asked? e = some a) :
    b.Books e (b.desk.begin a).2.workspace.registry (b.desk.begin a).2.workspace.settings := by
  cases b.desk.changes a with
  | opens opens =>
    rcases opens with same | ⟨path, s, opened, shown⟩
    · rw [same]
      exact .keeps b.settings.theme
    · rw [shown]
      exact books_of_shown rfl rfl opened
  | touches touches => exact books_of_touches touches e
  | removes act removed =>
    subst act
    rw [removed, Workspace.remove, Workspace.settings_remember, Workspace.registry_remember]
    exact .removes asked
  | @remembers t remembered =>
    rw [remembered]
    exact .keeps t

theorem books_land (b : Bench) (e : Event) (pending : Pending) (result : pending.access.Result) :
    b.Books e (b.desk.land pending result).2.workspace.registry
      (b.desk.land pending result).2.workspace.settings := by
  cases pending with
  | opening path =>
    cases result with
    | error _ => exact books_of_touches b.desk.workspace.touches_self e
    | ok content =>
      obtain ⟨s, opened⟩ := Workspace.opened_receive path content b.desk.workspace
      exact books_of_shown (Workspace.registry_receive _ path content)
        (Workspace.settings_receive _ path content) opened
  | saving path text =>
    exact books_of_touches (b.desk.workspace.touches_landSaving path text result) e
  | checking ticket =>
    exact books_of_touches (Watch.touches_land ticket result b.desk.workspace b.desk.watch) e

theorem books (b : Bench) (e : Event) : b.Books e (b.step e).2.registry (b.step e).2.settings := by
  -- neither of them lies in the outbox
  change b.Books e (b.step e).2.desk.flushed.workspace.registry
    (b.step e).2.desk.flushed.workspace.settings
  cases b.move e with
  | begins event asked desk disk tasks =>
    rw [desk]
    exact books_begin asked
  | lands finished desk disk tasks =>
    rw [desk]
    exact books_land b e _ _
  | drops dropped desk disk tasks =>
    simp only [desk, Desk.flushed, Desk.workspace_abandon]
    exact .keeps b.settings.theme
  | rests asked finished dropped desk tasks =>
    rw [desk]
    exact .keeps b.settings.theme

structure Follows (given : Settings) (r : Registry) (s : Settings) : Prop where
  limit : s.maxRecent = given.maxRecent
  newest : s.recentFiles <+: r.entries
  bounded : s.recentFiles.length ≤ max given.recentFiles.length given.capacity
  active : ∀ path, r.current = some path → s.activeFile = some path

namespace Follows

theorem known {given s : Settings} {r : Registry} (h : Follows given r s) {path : Text}
    (knows : s.knows path = true) : r.contains path = true := by
  obtain ⟨e, he, rfl⟩ := List.mem_map.1 (Settings.knows_iff.1 knows)
  have known : e ∈ r.known := List.mem_reverse.1 (h.newest.subset he)
  exact Registry.contains_iff.2 (List.mem_map_of_mem known)

theorem unknown {given s : Settings} {r : Registry} (h : Follows given r s) {path : Text}
    (unknown : r.contains path = false) : s.knows path = false := by
  rw [← Bool.not_eq_true]
  intro knows
  simp [h.known knows] at unknown

theorem capacity {given s : Settings} {r : Registry} (h : Follows given r s) :
    s.capacity = given.capacity := by
  rw [Settings.capacity, h.limit, Settings.capacity]

theorem step {given : Settings} {b : Bench} {e : Event} {r : Registry} {s : Settings}
    (h : Follows given b.registry b.settings) (books : b.Books e r s) : Follows given r s := by
  cases books with
  | keeps theme => exact ⟨h.limit, h.newest, h.bounded, h.active⟩
  | revisits known => exact ⟨h.limit, h.newest, h.bounded, fun _ current => current⟩
  | @adds path unknown =>
    rw [Settings.addRecent?_getD (h.unknown unknown)]
    refine ⟨h.limit, ?_, ?_, fun _ current => current⟩
    · have grown : Registry.entries ⟨b.registry.known ++ [.ofPath path], some path⟩ =
          .ofPath path :: b.registry.entries := by
        simp [Registry.entries]
      rw [grown]
      exact (List.take_prefix _ _).trans (List.prefix_cons_inj _ |>.2 h.newest)
    · have short := List.length_take_le b.settings.capacity (.ofPath path :: b.settings.recentFiles)
      rw [h.capacity] at short ⊢
      exact Nat.le_trans short (Nat.le_max_right _ _)
  | @removes path asked =>
    rw [Settings.removeRecent?_getD]
    refine ⟨h.limit, ?_, ?_, ?_⟩
    · rw [Registry.entries_remove]
      exact h.newest.filter _
    · exact Nat.le_trans (List.length_filter_le _ _) h.bounded
    · intro other current
      obtain ⟨before, still⟩ := Registry.current_remove_eq_some.1 current
      simp [h.active other before, still]

theorem ofRecent {s : Settings} (distinct : (s.recentFiles.map (·.path)).Nodup) :
    Follows s (.ofRecent s.recentFiles) s where
  limit := rfl
  newest := (Registry.entries_ofRecent distinct).symm ▸ List.prefix_rfl
  bounded := Nat.le_max_left _ _
  active path current := by simp [Registry.current_ofRecent] at current

theorem distinct {given s : Settings} {r : Registry} (h : Follows given r s)
    (known : r.paths.Nodup) : (s.recentFiles.map (·.path)).Nodup := by
  have entries : (r.entries.map (·.path)).Nodup := by
    rw [Registry.entries, List.map_reverse, List.nodup_reverse]
    exact known
  exact entries.sublist (h.newest.sublist.map _)

end Follows

theorem follows_run {u : Setup} (distinct : (u.settings.recentFiles.map (·.path)).Nodup)
    (es : List Event) :
    Follows u.settings (u.bench.run es).registry (u.bench.run es).settings := by
  have start : Follows u.settings u.bench.registry u.bench.settings := .ofRecent distinct
  exact run_keeps (P := fun b => Follows u.settings b.registry b.settings) start
    (fun b e h => h.step (b.books e)) es

/-- Stored without repetition at first, the recent files are the newest known scripts after every
run, as many as the limit allows or as there were at first; and the active file is the current
one whenever there is one. -/
theorem recent_follows_known (u : Setup)
    (distinct : (u.settings.recentFiles.map (·.path)).Nodup) (es : List Event) :
    (u.bench.run es).settings.recentFiles <+: (u.bench.run es).registry.entries ∧
      ((u.bench.run es).settings.recentFiles.map (·.path)).Nodup ∧
      (u.bench.run es).settings.recentFiles.length ≤
        max u.settings.recentFiles.length (max u.settings.maxRecent.toNat 1) ∧
      ∀ path, (u.bench.run es).current? = some path →
        (u.bench.run es).settings.activeFile = some path := by
  have follows := follows_run distinct es
  exact ⟨follows.newest, follows.distinct (coherent_run u es).known, follows.bounded,
    follows.active⟩

theorem overfull_recent_follows_known :
    let u : Setup :=
      { Setup.ofFiles [(['d'], [])] with
        settings := { recentFiles := [['a'], ['b'], ['c']].map .ofPath, maxRecent := 2 }
        location := some "x/settings".toList
        tree := ⟨[], [([['x']], .program)]⟩ }
    let b := u.bench.run [.start 0 (.act (.openFile ['d'])), .finish 0,
      .start 1 (.act (.remove ['a']))]
    b.tree.nodes = u.tree.nodes ∧
      b.settings.recentFiles = [.ofPath ['d']] ∧
      b.registry.entries = [['d'], ['b'], ['c']].map .ofPath ∧
      b.settings.recentFiles <+: b.registry.entries := by
  intro u b
  obtain ⟨newest, -⟩ := recent_follows_known u (by decide) [.start 0 (.act (.openFile ['d'])),
    .finish 0, .start 1 (.act (.remove ['a']))]
  exact ⟨by decide, by decide, by decide, newest⟩

end Bench
end ScriptDesk
