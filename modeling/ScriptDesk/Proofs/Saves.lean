import ScriptDesk.Proofs.Answer
import ScriptDesk.Proofs.ReadSlot

/-! Saves under way.  A session that is being saved refuses a second save, and it is all that keeps
the saves of a file apart: it goes with its file when that is removed.  A save lands on the session
that is at its path by then. -/

namespace ScriptDesk

def Pending.saves (path : Text) : Pending → Bool
  | .saving p _ => p == path
  | _ => false

theorem Workspace.savePath_of_saving {w : Workspace} {path : Text} {s : Session}
    (opened : w.session? path = some s) (busy : s.saving = true) :
    w.savePath path = (.done (.error (.busy path)), w) := by
  simp [savePath, opened, Session.beginSave?, busy]

theorem Session.finishSave_eq_self {s : Session} {written : Option Text} :
    s.finishSave written = s ↔ written = none ∧ s.saving = false := by
  rcases s with ⟨id, path, baseline, working, saving, revision⟩
  cases written <;> simp [finishSave, setBaseline, eq_comm]

namespace Bench

def saves (b : Bench) (path : Text) : Nat := b.tasks.countP (·.pending.saves path)

def saving (b : Bench) (path : Text) : Bool := (b.session? path).any (·.saving)

theorem saving_eq_true {b : Bench} {path : Text} :
    b.saving path = true ↔ ∃ s, b.session? path = some s ∧ s.saving = true := by
  unfold saving
  cases b.session? path <;> simp

theorem begun_of_begins {b : Bench} {e : Event} {t : BenchTask} {path text : Text}
    (begins : b.Begins e t) (pending : t.pending = .saving path text) :
    ∃ s, b.session? path = some s ∧ s.saving = false ∧ s.working = text := by
  obtain ⟨job, a, -, asked, stage⟩ := begins
  cases pending ▸ Desk.awaits stage with
  | writing saves opened free => exact ⟨_, opened, free, rfl⟩

theorem saves_without {b : Bench} {t : BenchTask} (found : b.task? t.id = some t) (path : Text) :
    (b.without t.id).saves path + (t.pending.saves path).toNat = b.saves path :=
  countP_eraseP_add found

inductive SaveShift (b : Bench) (e : Event) (path : Text) (b' : Bench) : Prop
  | begins {a : Act} {s : Session} (asked : b.asked? e = some a)
      (saves : b.desk.saves path a = true)
      (opened : b.session? path = some s) (free : s.saving = false)
      (count : b'.saves path = b.saves path + 1)
  -- a save lands, or is given up
  | ends (idle : b.asked? e = none) (count : b'.saves path + 1 = b.saves path)
  | keeps (elsewhere : ∀ t text, b.finished? e = some t → t.pending ≠ .saving path text)
      (count : b'.saves path = b.saves path)

theorem saveShift (b : Bench) (e : Event) (path : Text) : SaveShift b e path (b.step e).2 := by
  have left {t : BenchTask} (idle : b.asked? e = none) (found : b.task? t.id = some t)
      (tasks : (b.step e).2.tasks = (b.without t.id).tasks)
      (now : ∀ t', b.finished? e = some t' → t' = t) : SaveShift b e path (b.step e).2 := by
    have count := saves_without found path
    have same : (b.step e).2.saves path = (b.without t.id).saves path :=
      congrArg (List.countP _) tasks
    cases here : t.pending.saves path with
    | true => exact .ends idle (by rw [same, ← count, here]; rfl)
    | false =>
      refine .keeps ?_ (by rw [same, ← count, here]; rfl)
      rintro t' text finished pending
      rw [← now t' finished, pending] at here
      simp [Pending.saves] at here
  cases b.move e with
  | @begins a id job report event asked desk disk tasks =>
    have unfinished (t : BenchTask) (text : Text) (finished : b.finished? e = some t) :
        t.pending ≠ .saving path text := by
      simp [event, finished?] at finished
    cases stage : (b.desk.begin a).1 with
    | done r =>
      rw [stage, Stage.tasks, List.append_nil] at tasks
      exact .keeps unfinished (congrArg (List.countP _) tasks)
    | waits pending =>
      rw [stage] at tasks
      have count : (b.step e).2.saves path = b.saves path + (pending.saves path).toNat := by
        simp only [saves, tasks, Stage.tasks, List.countP_append]
        cases h : pending.saves path <;> simp [h]
      cases Desk.awaits stage with
      | @writing p s saves opened free =>
        by_cases same : p = path
        · subst same
          exact .begins asked saves opened free (by simp [count, Pending.saves])
        · exact .keeps unfinished (by simp [count, Pending.saves, same])
      | _ => exact .keeps unfinished count
  | lands finished desk disk tasks =>
    have idle := asked?_of_finished finished
    refine left idle (task?_of_finished finished) tasks fun t' finished' => ?_
    exact Option.some.inj (finished'.symm.trans finished)
  | drops dropped desk disk tasks =>
    have idle := asked?_of_dropped dropped
    refine left idle (task?_of_dropped dropped) tasks fun t' finished' => ?_
    simp [finished?_of_dropped dropped] at finished'
  | rests asked finished dropped desk tasks =>
    refine .keeps (fun t text finished' => ?_) (congrArg (List.countP _) tasks)
    simp [finished] at finished'

theorem saving_step {b : Bench} {e : Event} {path : Text} (busy : b.saving path = true)
    (stays : b.asked? e ≠ some (.remove path))
    (elsewhere : ∀ t text, b.finished? e = some t → t.pending ≠ .saving path text) :
    (b.step e).2.saving path = true := by
  obtain ⟨s, opened, held⟩ := saving_eq_true.1 busy
  have cause := b.cause e path
  rw [saving, session?_step, opened]
  generalize b.effect e path = effect at cause
  cases cause with
  | load finished pending read closed => simp [opened] at closed
  | written finished pending write => exact absurd pending (elsewhere _ _ finished)
  | unwritten finished pending write => exact absurd pending (elsewhere _ _ finished)
  | remove asked => exact absurd asked stays
  | @settle r c s' => cases r <;> exact held
  | beginSave => rfl
  | _ => exact held

/-- The session of a file is being saved while a save of the file is pending, and one is at most. -/
def SaveSlot (b : Bench) (path : Text) : Prop := b.saves path ≤ (b.saving path).toNat

/-- A file is removed while a save of it is pending. -/
def Orphans (b : Bench) (e : Event) (path : Text) : Prop :=
  b.asked? e = some (.remove path) ∧ b.saves path ≠ 0

instance (b : Bench) (e : Event) (path : Text) : Decidable (b.Orphans e path) :=
  inferInstanceAs (Decidable (_ ∧ _))

theorem saveSlot_step {b : Bench} {e : Event} {path : Text} (slot : b.SaveSlot path)
    (kept : ¬ b.Orphans e path) : (b.step e).2.SaveSlot path := by
  have one := (b.saving path).toNat_le
  unfold SaveSlot at slot ⊢
  cases b.saveShift e path with
  | begins asked saves opened free count =>
    have idle : b.saving path = false := by simp [saving, opened, free]
    have busy : (b.step e).2.saving path = true := by
      rw [saving, session?_step, effect_of_asked asked, Desk.beginEffect_of_saves saves, opened]
      rfl
    rw [idle, Bool.toNat_false] at slot
    rw [busy, Bool.toNat_true]
    omega
  | ends idle count => omega
  | keeps elsewhere count =>
    by_cases none : b.saves path = 0
    · omega
    · have busy : b.saving path = true := by
        cases busy : b.saving path with
        | true => rfl
        | false =>
          rw [busy, Bool.toNat_false] at slot
          omega
      rw [saving_step busy (fun removed => kept ⟨removed, none⟩) elsewhere, Bool.toNat_true]
      omega

theorem saveSlot_run {b : Bench} {es : List Event} {path : Text} (slot : b.SaveSlot path)
    (kept : ∀ x ∈ b.steps es, ¬ x.1.Orphans x.2 path) : ∀ x ∈ b.states es, x.SaveSlot path := by
  induction es generalizing b with
  | nil => simpa [states] using slot
  | cons e es ih =>
    simp only [steps, states, List.forall_mem_cons] at kept ⊢
    exact ⟨slot, ih (saveSlot_step slot kept.1) kept.2⟩

def Refuses (b : Bench) (path : Text) : Prop :=
  ∀ e a, b.asked? e = some a → b.desk.saves path a = true →
    b.Answers e (.error (.busy path)) ∧ (b.step e).2 = b

theorem refuses_of_saving {b : Bench} {path : Text} (flushed : b.desk.workspace.outbox = [])
    (busy : b.saving path = true) : b.Refuses path := by
  intro e a asked act
  obtain ⟨s, opened, held⟩ := saving_eq_true.1 busy
  have refused : b.desk.begin a = (.done (.error (.busy path)), b.desk) := by
    rw [Desk.begin_of_saves act, Workspace.savePath_of_saving opened held]
    rfl
  have free : a.mustPersist = false := by
    rcases Desk.saves_cases act with rfl | ⟨rfl, -⟩ <;> rfl
  exact ⟨answers_of_done asked (congrArg Prod.fst refused) free, step_of_idle flushed asked refused⟩

theorem not_refuses_of_orphans {b : Bench} {e : Event} {path : Text} (orphans : b.Orphans e path) :
    (b.step e).2.saves path ≠ 0 ∧ ¬ (b.step e).2.Refuses path := by
  obtain ⟨removed, pending⟩ := orphans
  constructor
  · cases b.saveShift e path with
    | begins asked saves =>
      cases removed.symm.trans asked
      cases saves
    | ends idle count => simp [removed] at idle
    | keeps elsewhere count => rwa [count]
  · intro refuses
    have closed : (b.step e).2.desk.workspace.session? path = none := closed_of_remove removed
    generalize (b.step e).2 = b' at refuses closed
    obtain ⟨busy, -⟩ := refuses (.start 0 (.act (.savePath path))) _ rfl (by simp [Desk.saves])
    have unknown : b'.Answers (.start 0 (.act (.savePath path))) (.error (.unknownFile path)) :=
      answers_of_done rfl (by simp [Desk.begin, Desk.within, Workspace.savePath, closed]) rfl
    rw [answers_act] at busy unknown
    cases busy.symm.trans unknown

theorem saving_of_saves {b : Bench} {path : Text} (slot : b.SaveSlot path)
    (pending : b.saves path ≠ 0) : b.saving path = true := by
  unfold SaveSlot at slot
  cases busy : b.saving path with
  | true => rfl
  | false =>
    rw [busy, Bool.toNat_false] at slot
    omega

/-- A file that has a save pending refuses another one if and only if no file is removed while a
save of it is pending.  Then one save at most is pending, and one that is begun finds all before it
landed or given up. -/
theorem one_save_per_file (u : Setup) (es : List Event) (path : Text) :
    ((∀ x ∈ u.bench.states es, x.saves path ≠ 0 → x.Refuses path) ↔
      ∀ x ∈ u.bench.steps es, ¬ x.1.Orphans x.2 path) ∧
    ((∀ x ∈ u.bench.steps es, ¬ x.1.Orphans x.2 path) →
      (∀ x ∈ u.bench.states es, x.saves path ≤ 1) ∧
      ∀ x ∈ u.bench.steps es, ∀ t text, x.1.Begins x.2 t → t.pending = .saving path text →
        x.1.saves path = 0) := by
  have start : u.bench.SaveSlot path := Nat.zero_le _
  refine ⟨⟨?_, ?_⟩, ?_⟩
  · intro refuses x hx orphans
    obtain ⟨pending, begun⟩ := not_refuses_of_orphans orphans
    exact begun (refuses _ (step_mem_states hx) pending)
  · intro kept x hx pending
    have busy := saving_of_saves (saveSlot_run start kept x hx) pending
    obtain ⟨es₁, es₂, -, rfl⟩ := exists_of_mem_states hx
    exact refuses_of_saving (outbox_run u es₁) busy
  · intro kept
    have slots := saveSlot_run start kept
    refine ⟨fun x hx => Nat.le_trans (slots x hx) (Bool.toNat_le _), ?_⟩
    intro x hx t text begins pending
    obtain ⟨s, opened, free, -⟩ := begun_of_begins begins pending
    have slot := slots x.1 (fst_mem_states hx)
    have idle : x.1.saving path = false := by simp [saving, opened, free]
    rw [SaveSlot, idle] at slot
    exact Nat.le_zero.1 slot

theorem second_save_refused :
    let b := (Setup.ofFiles [(['a'], ['x'])]).bench.run
      [.start 0 (.act (.openFile ['a'])), .finish 0, .start 1 (.act (.edit ['y'])),
        .start 2 (.message .save), .start 3 (.act (.edit ['z']))]
    b.saves ['a'] = 1 ∧ b.Refuses ['a'] := by
  obtain ⟨iff, -⟩ := one_save_per_file (Setup.ofFiles [(['a'], ['x'])])
    [.start 0 (.act (.openFile ['a'])), .finish 0, .start 1 (.act (.edit ['y'])),
      .start 2 (.message .save), .start 3 (.act (.edit ['z']))] ['a']
  exact ⟨by decide, iff.2 (by decide) _ (run_mem_states _ _) (by decide)⟩

/-- A file that is removed while it is saved and opened again is saved a second time, and the text
that is older is the one that stays on disk. -/
theorem older_save_lands_last :
    let b := (Setup.ofFiles [(['a'], ['x'])]).bench.run
      [.start 0 (.act (.openFile ['a'])), .finish 0, .start 1 (.act (.edit ['y'])),
        .start 2 (.act (.savePath ['a'])), .start 3 (.act (.remove ['a'])),
        .start 4 (.act (.openFile ['a'])), .finish 4, .start 5 (.act (.edit ['z']))]
    let b' := (b.step (.start 6 (.act (.savePath ['a'])))).2
    b.saves ['a'] = 1 ∧ ¬ b.Refuses ['a'] ∧ b'.saves ['a'] = 2 ∧
      (b'.run [.finish 6]).disk.contents ['a'] = some ['z'] ∧
      (b'.run [.finish 6, .finish 2]).disk.contents ['a'] = some ['y'] := by
  refine ⟨by decide, ?_, by decide, by decide, by decide⟩
  intro refuses
  obtain ⟨-, same⟩ := refuses (.start 6 (.act (.savePath ['a']))) _ rfl rfl
  have count := congrArg (saves · ['a']) same
  revert count
  decide

def Spares (b : Bench) (e : Event) (id : Nat) : Prop :=
  ∀ path s, b.session? path = some s → s.id ≠ id → (b.step e).2.session? path = some s

theorem session?_step_of_save {b : Bench} {e : Event} {t : BenchTask} {p text : Text}
    (finished : b.finished? e = some t) (pending : t.pending = .saving p text) (path : Text) :
    (b.step e).2.session? path =
      if p = path then
        (b.session? path).map
          (Session.finishSave ((b.disk.write p text).1.toOption.map fun _ => text))
      else b.session? path := by
  rw [session?_step, effect_of_finished finished, pending]
  simp only [Desk.landEffect]
  by_cases here : p = path
  · cases (b.disk.write p text).1 <;> simp [here, Effect.apply, Except.toOption]
  · simp [here, Effect.apply]

theorem spares_iff {b : Bench} {e : Event} {t : BenchTask} {path text : Text} {id : Nat}
    (finished : b.finished? e = some t) (pending : t.pending = .saving path text) :
    b.Spares e id ↔ ∀ s, b.session? path = some s → s.id ≠ id →
      s.saving = false ∧ ∃ error, (b.disk.write path text).1 = .error error := by
  have unwritten : (b.disk.write path text).1.toOption.map (fun _ => text) = none ↔
      ∃ error, (b.disk.write path text).1 = .error error := by
    cases (b.disk.write path text).1 <;> simp [Except.toOption]
  have here {s : Session} (opened : b.session? path = some s) :
      (b.step e).2.session? path = some s ↔
        s.saving = false ∧ ∃ error, (b.disk.write path text).1 = .error error := by
    rw [session?_step_of_save finished pending, if_pos rfl, opened, Option.map_some,
      Option.some.injEq, Session.finishSave_eq_self, unwritten, and_comm]
  constructor
  · intro spares s opened other
    exact (here opened).1 (spares path s opened other)
  · intro idle p s opened other
    by_cases same : path = p
    · subst same
      exact (here opened).2 (idle s opened other)
    · rw [session?_step_of_save finished pending, if_neg same, opened]

/-- A save that lands changes no session but the one it was begun for, unless another is at the path
by now.  Without a removal since there is none; and where no save is ever orphaned the session goes
on to be saved until then. -/
theorem save_lands_on_its_session {u : Setup} {es₁ es₂ : List Event} {e₁ e : Event}
    {t : BenchTask} {path text : Text} (begun : (u.bench.run es₁).PendingSince e₁ es₂ t)
    (pending : t.pending = .saving path text)
    (finished : (u.bench.run (es₁ ++ e₁ :: es₂)).finished? e = some t) :
    ∃ s₁, (u.bench.run es₁).session? path = some s₁ ∧ s₁.working = text ∧
      ((u.bench.run (es₁ ++ e₁ :: es₂)).Spares e s₁.id ↔
        ∀ s, (u.bench.run (es₁ ++ e₁ :: es₂)).session? path = some s → s.id ≠ s₁.id →
          s.saving = false ∧
            ∃ error, ((u.bench.run (es₁ ++ e₁ :: es₂)).disk.write path text).1 = .error error) ∧
      ((∀ x ∈ (u.bench.run es₁).steps (e₁ :: es₂), x.1.asked? x.2 ≠ some (.remove path)) →
        (u.bench.run (es₁ ++ e₁ :: es₂)).Spares e s₁.id) ∧
      ((∀ x ∈ u.bench.steps (es₁ ++ e₁ :: es₂), ¬ x.1.Orphans x.2 path) →
        ∀ x ∈ ((u.bench.run es₁).step e₁).2.states es₂, x.saving path = true) := by
  obtain ⟨s₁, opened₁, -, working⟩ := begun_of_begins begun.begun pending
  have spares := @spares_iff _ e t path text s₁.id finished pending
  refine ⟨s₁, opened₁, working, spares, ?_, ?_⟩
  · intro kept
    refine spares.2 fun s opened other => ?_
    rw [run_append] at opened
    rcases session_run (e₁ :: es₂) opened₁ with ⟨x, hx, removed⟩ | ⟨-, s', opened', id, -⟩
    · exact absurd removed (kept x hx)
    · cases opened.symm.trans opened'
      exact absurd id other
  · intro kept x hx
    have start : u.bench.SaveSlot path := Nat.zero_le _
    have reached : x ∈ u.bench.states (es₁ ++ e₁ :: es₂) :=
      mem_states_append (List.mem_cons_of_mem _ hx)
    refine saving_of_saves (saveSlot_run start kept x reached) ?_
    have here := begun.pending x hx
    rw [saves, Ne, List.countP_eq_zero, not_forall]
    exact ⟨t, fun none => none here (by simp [pending, Pending.saves])⟩

theorem save_spares_file_opened_since :
    let b := (Setup.ofFiles [(['a'], ['x']), (['b'], [])]).bench.run
      [.start 0 (.act (.openFile ['a'])), .finish 0, .start 1 (.act (.edit ['y'])),
        .start 2 (.act .save), .start 3 (.act (.openFile ['b'])), .finish 3]
    (b.step (.finish 2)).2.session? ['a'] = some ⟨1, ['a'], ['y'], ['y'], false, 1⟩ ∧
      b.Spares (.finish 2) 1 := by
  have begun : ((Setup.ofFiles [(['a'], ['x']), (['b'], [])]).bench.run
      [.start 0 (.act (.openFile ['a'])), .finish 0, .start 1 (.act (.edit ['y']))]).PendingSince
      (.start 2 (.act .save)) [.start 3 (.act (.openFile ['b'])), .finish 3]
      ⟨2, .saving ['a'] ['y'], none⟩ := ⟨⟨.act .save, .save, rfl, rfl, rfl⟩, by decide⟩
  obtain ⟨s₁, opened, -, -, spares, -⟩ :=
    save_lands_on_its_session (e := .finish 2) begun rfl (by decide)
  have first : s₁.id = 1 := by
    cases opened.symm.trans (show _ = some ⟨1, ['a'], ['x'], ['y'], false, 0⟩ by decide)
    rfl
  exact ⟨by decide, first ▸ spares (by decide)⟩

/-- A file that is removed while it is saved and opened again takes the text of the old save for
what is on disk, and a save of its own loses the slot. -/
theorem reopened_session_not_spared :
    let b₁ := (Setup.ofFiles [(['a'], ['x'])]).bench.run
      [.start 0 (.act (.openFile ['a'])), .finish 0, .start 1 (.act (.edit ['y']))]
    let b := b₁.run [.start 2 (.act (.savePath ['a'])), .start 3 (.act (.remove ['a'])),
      .start 4 (.act (.openFile ['a'])), .finish 4]
    let b' := (b.step (.start 5 (.act (.savePath ['a'])))).2
    b₁.session? ['a'] = some ⟨1, ['a'], ['x'], ['y'], false, 0⟩ ∧
      b.session? ['a'] = some ⟨2, ['a'], ['x'], ['x'], false, 0⟩ ∧
      (b.step (.finish 2)).2.session? ['a'] = some ⟨2, ['a'], ['y'], ['x'], false, 1⟩ ∧
      ¬ b.Spares (.finish 2) 1 ∧
      b'.session? ['a'] = some ⟨2, ['a'], ['x'], ['x'], true, 0⟩ ∧
      (b'.step (.finish 2)).2.session? ['a'] = some ⟨2, ['a'], ['y'], ['x'], false, 1⟩ ∧
      (b'.step (.finish 2)).2.saves ['a'] = 1 := by
  refine ⟨by decide, by decide, by decide, ?_, by decide, by decide, by decide⟩
  intro spares
  have kept := spares ['a'] ⟨2, ['a'], ['x'], ['x'], false, 0⟩ (by decide) (by decide)
  revert kept
  decide

end Bench
end ScriptDesk
