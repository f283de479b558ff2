import ScriptDesk.Proofs.Settings
import Mathlib.Data.List.Induction

/-! Stores and the files they keep their settings in.  A call that has nothing to write is accepted
whatever became of the calls before it; so an accepted call is persisted if it was written, and
otherwise if nothing was left unwritten before it. -/

namespace ScriptDesk

/-- Reading a location changes nothing, and brings what was written there last.  What a write that
fails leaves behind is open. -/
structure Host.Faithful (σ : Type) [Host (StateM σ)] (location : Text) : Prop where
  read_keeps : ∀ w, ((Host.read location : StateM σ _).run w).2 = w
  read_of_write : ∀ text w w', (Host.write location text : StateM σ _).run w = (.ok (), w') →
    ((Host.read location : StateM σ _).run w').1 = .ok text

theorem FileTree.faithful (location : Text) : Host.Faithful FileTree location where
  read_keeps _ := rfl
  read_of_write _ _ _ h := read_of_write (write_of_run h)

namespace Store

inductive Call
  | addRecent (e : Entry)
  | removeRecent (path : Text)
  | setActive (path : Option Text)
  | setTheme (t : Theme)
  deriving DecidableEq, Repr

def Call.change? (s : Settings) : Call → Option Settings
  | .addRecent e => s.addRecent? e
  | .removeRecent path => s.removeRecent? path
  | .setActive path => s.setActive? path
  | .setTheme t => some (s.setTheme t)

def call {m : Type → Type} [Monad m] [Host m] (s : Store) :
    Call → m (Except IoError Unit × Store)
  | .addRecent e => s.addRecent e
  | .removeRecent path => s.removeRecent path
  | .setActive path => s.setActive path
  | .setTheme t => s.setTheme t

theorem call_eq_commit {m : Type → Type} [Monad m] [Host m] (s : Store) (c : Call) :
    (s.call c : m _) = s.commit (c.change? s.settings) := by
  cases c <;> rfl

end Store

structure StoreOn (σ : Type) where
  store : Store
  host : σ

namespace StoreOn

variable {σ : Type} [Host (StateM σ)]

def openAt (location : Text) (w : σ) : StoreOn σ where
  store := ((Store.openAt location : StateM σ Store).run w).1
  host := ((Store.openAt location : StateM σ Store).run w).2

def answer (x : StoreOn σ) (c : Store.Call) : Except IoError Unit :=
  ((x.store.call c : StateM σ _).run x.host).1.1

def after (x : StoreOn σ) (c : Store.Call) : StoreOn σ where
  store := ((x.store.call c : StateM σ _).run x.host).1.2
  host := ((x.store.call c : StateM σ _).run x.host).2

def run (x : StoreOn σ) (cs : List Store.Call) : StoreOn σ := cs.foldl after x

def steps (x : StoreOn σ) : List Store.Call → List (StoreOn σ × Store.Call)
  | [] => []
  | c :: cs => (x, c) :: (x.after c).steps cs

/-- A second store opened at the location is the same as this one, and opening it changes
nothing. -/
def Persisted (location : Text) (x : StoreOn σ) : Prop := openAt location x.host = x

def Writes (x : StoreOn σ) (c : Store.Call) : Prop :=
  c.change? x.store.settings ≠ none ∧ x.answer c = .ok ()

def Fails (x : StoreOn σ) (c : Store.Call) : Prop := ∃ e, x.answer c = .error e

theorem run_concat (x : StoreOn σ) (cs : List Store.Call) (c : Store.Call) :
    x.run (cs ++ [c]) = (x.run cs).after c := by
  simp [run]

theorem steps_concat (x : StoreOn σ) (cs : List Store.Call) (c : Store.Call) :
    x.steps (cs ++ [c]) = x.steps cs ++ [(x.run cs, c)] := by
  induction cs generalizing x with
  | nil => rfl
  | cons d cs ih => simp [steps, run, ih]

inductive Calls (location : Text) (x : StoreOn σ) (c : Store.Call) : Prop
  | idle (change : c.change? x.store.settings = none) (answer : x.answer c = .ok ())
      (after : x.after c = x)
  | saves {settings : Settings} (change : c.change? x.store.settings = some settings)
      (store : (x.after c).store = ⟨settings, some location⟩)
      (saved : (settings.save location : StateM σ _).run x.host = (x.answer c, (x.after c).host))

theorem calls {location : Text} {x : StoreOn σ} (located : x.store.location = some location)
    (c : Store.Call) : x.Calls location c := by
  obtain ⟨⟨settings, place⟩, w⟩ := x
  cases located
  cases change : c.change? settings with
  | none =>
    have idle : ((⟨settings, some location⟩ : Store).call c : StateM σ _) =
        pure (.ok (), ⟨settings, some location⟩) := by
      rw [Store.call_eq_commit, change]
      rfl
    refine .idle change ?_ ?_
    · simp only [answer, idle]
      rfl
    · simp only [after, idle]
      rfl
  | some settings' =>
    have saves : ((⟨settings, some location⟩ : Store).call c : StateM σ _) =
        (settings'.save location >>= fun r => pure (r, ⟨settings', some location⟩)) := by
      rw [Store.call_eq_commit, change]
      rfl
    refine .saves change ?_ ?_
    · simp only [after, saves]
      rfl
    · simp only [answer, after, saves]
      rfl

theorem location_run {location : Text} {x : StoreOn σ} (located : x.store.location = some location)
    (cs : List Store.Call) : (x.run cs).store.location = some location := by
  induction cs using List.reverseRecOn with
  | nil => exact located
  | append_singleton cs c ih =>
    rw [run_concat]
    cases calls ih c with
    | idle change answer after => rw [after, ih]
    | saves change store saved => rw [store]

def found : Except IoError Text → Settings
  | .ok text => (Settings.parse? text).getD {}
  | .error _ => {}

theorem openAt_eq {location : Text} (faithful : Host.Faithful σ location) (w : σ) :
    openAt location w =
      ⟨⟨found ((Host.read location : StateM σ _).run w).1, some location⟩, w⟩ := by
  have loads : (Store.openAt location : StateM σ Store) =
      (Host.read location >>= fun r => pure ⟨found r, some location⟩) := by
    simp only [Store.openAt, Settings.load, bind_assoc]
    congr 1
    funext r
    cases r <;> rfl
  have keeps := faithful.read_keeps w
  cases read : (Host.read location : StateM σ _).run w with
  | mk result w' =>
    rw [read] at keeps
    cases keeps
    simp only [openAt, loads, StateT.run_bind, read]
    rfl

theorem persisted_openAt {location : Text} (faithful : Host.Faithful σ location) (w : σ) :
    (openAt location w).Persisted location := by
  have stays : (openAt location w).host = w := by rw [openAt_eq faithful]
  rw [Persisted, stays]

theorem persisted_of_save {location : Text} (faithful : Host.Faithful σ location)
    {settings : Settings} {w w' : σ}
    (saved : (settings.save location : StateM σ _).run w = (.ok (), w')) :
    openAt location w' = ⟨⟨settings, some location⟩, w'⟩ := by
  obtain ⟨w₁, written⟩ := Settings.exists_write_of_save saved
  have read := faithful.read_of_write settings.print w₁ w' written
  rw [openAt_eq faithful, read, found, settings.parse?_print, Option.getD_some]

theorem persisted_after_iff {location : Text} (faithful : Host.Faithful σ location)
    {x : StoreOn σ} (located : x.store.location = some location) {c : Store.Call}
    (accepted : x.answer c = .ok ()) :
    (x.after c).Persisted location ↔ x.Writes c ∨ x.Persisted location := by
  cases calls located c with
  | idle change answer after =>
    rw [after]
    simp [Writes, change]
  | @saves settings change store saved =>
    have writes : x.Writes c := ⟨by simp [change], accepted⟩
    rw [accepted] at saved
    have persisted : (x.after c).Persisted location := by
      rw [Persisted, persisted_of_save faithful saved, ← store]
    exact ⟨fun _ => .inl writes, fun _ => persisted⟩

theorem fails_or_accepts (x : StoreOn σ) (c : Store.Call) : x.Fails c ∨ x.answer c = .ok () := by
  cases answer : x.answer c with
  | error e => exact .inl ⟨e, answer⟩
  | ok => exact .inr rfl

theorem persisted_run_or {location : Text} (faithful : Host.Faithful σ location) {x : StoreOn σ}
    (located : x.store.location = some location) (start : x.Persisted location)
    (cs : List Store.Call) :
    (x.run cs).Persisted location ∨
      ∃ cs₁ c cs₂, cs = cs₁ ++ c :: cs₂ ∧ (x.run cs₁).Fails c ∧
        ∀ y ∈ ((x.run cs₁).after c).steps cs₂, ¬ y.1.Writes y.2 := by
  induction cs using List.reverseRecOn with
  | nil => exact .inl start
  | append_singleton cs c ih =>
    rw [run_concat]
    rcases fails_or_accepts (x.run cs) c with fails | accepted
    · exact .inr ⟨cs, c, [], rfl, fails, by simp [steps]⟩
    · have after := persisted_after_iff faithful (location_run located cs) accepted
      by_cases writes : (x.run cs).Writes c
      · exact .inl (after.2 (.inl writes))
      · rcases ih with persisted | ⟨cs₁, d, cs₂, rfl, fails, unwritten⟩
        · exact .inl (after.2 (.inr persisted))
        · refine .inr ⟨cs₁, d, cs₂ ++ [c], by simp, fails, ?_⟩
          have here : ((x.run cs₁).after d).run cs₂ = x.run (cs₁ ++ d :: cs₂) := by simp [run]
          rw [steps_concat, List.forall_mem_append, List.forall_mem_singleton, here]
          exact ⟨unwritten, writes⟩

/-- A call that is accepted is persisted if it was written, and otherwise if all was persisted
before it; and that it was, unless a call has failed before and none was written since. -/
theorem accepted_is_persisted {location : Text} (faithful : Host.Faithful σ location) (w : σ)
    (cs : List Store.Call) {c : Store.Call}
    (accepted : ((openAt location w).run cs).answer c = .ok ()) :
    ((((openAt location w).run cs).after c).Persisted location ↔
      ((openAt location w).run cs).Writes c ∨
        ((openAt location w).run cs).Persisted location) ∧
    (((openAt location w).run cs).Persisted location ∨
      ∃ cs₁ d cs₂, cs = cs₁ ++ d :: cs₂ ∧ ((openAt location w).run cs₁).Fails d ∧
        ∀ y ∈ (((openAt location w).run cs₁).after d).steps cs₂, ¬ y.1.Writes y.2) := by
  have located : (openAt location w).store.location = some location := by rw [openAt_eq faithful]
  exact ⟨persisted_after_iff faithful (location_run located cs) accepted,
    persisted_run_or faithful located (persisted_openAt faithful w) cs⟩

theorem corrupt_file_replaced :
    let x := (openAt "settings.json".toList
      (⟨[], [(["settings.json".toList], .file (FileTree.encode "nope".toList))]⟩ : FileTree)).run
      [.removeRecent ['a'], .addRecent (.ofPath ['a'])]
    x.store.settings = { recentFiles := [.ofPath ['a']] } ∧
      x.answer (.setTheme .kali) = .ok () ∧
      (x.after (.setTheme .kali)).Persisted "settings.json".toList := by
  intro x
  have accepted : x.answer (.setTheme .kali) = .ok () := by rfl
  have persisted := (accepted_is_persisted (FileTree.faithful _) _ _ accepted).1
  exact ⟨by rfl, accepted, persisted.2 (.inl ⟨nofun, accepted⟩)⟩

/-- Where a file stands in the way of the directory no settings are written.  A call made again is
accepted all the same, and so is one that changes nothing. -/
theorem repeated_call_hides_failed_write :
    let start := openAt "d/settings.json".toList
      (⟨[], [([['d']], .file (FileTree.encode []))]⟩ : FileTree)
    let x := start.after (.addRecent (.ofPath ['a']))
    start.answer (.addRecent (.ofPath ['a'])) = .error .alreadyExists ∧
      x.store.settings = { recentFiles := [.ofPath ['a']] } ∧
      x.answer (.addRecent (.ofPath ['a'])) = .ok () ∧
      ¬ (x.after (.addRecent (.ofPath ['a']))).Persisted "d/settings.json".toList ∧
      x.answer (.setActive none) = .ok () ∧
      ¬ (x.after (.setActive none)).Persisted "d/settings.json".toList := by
  intro start x
  have lost : ¬ x.Persisted "d/settings.json".toList := by
    intro persisted
    have found := congrArg (·.store.settings.recentFiles) persisted
    revert found
    decide
  exact ⟨rfl, rfl, rfl, lost, rfl, lost⟩

end StoreOn
end ScriptDesk
