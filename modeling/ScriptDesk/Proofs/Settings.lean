import ScriptDesk.Settings.Store
import ScriptDesk.Proofs.Lines
import ScriptDesk.Proofs.Spelling
import ScriptDesk.Proofs.Tree

namespace ScriptDesk

namespace Json

theorem head?_ofNat {n : Nat} (pos : 0 < n) : (Text.ofNat n).head? ≠ some '0' := by
  induction n using Nat.strongRecOn with
  | ind n ih =>
    rw [Text.ofNat, Nat.toDigits_eq_if (by omega)]
    split
    · simp [Nat.digitChar_eq_zero]
      omega
    · have outer : (Nat.toDigits 10 (n / 10)).head? ≠ some '0' := ih (n / 10) (by omega) (by omega)
      cases digits : Nat.toDigits 10 (n / 10) with
      | nil => exact absurd digits Nat.toDigits_ne_nil
      | cons c t => simpa [digits] using outer

theorem isNumber_of_isDigit {c : Char} {t : Text} (zero : c = '0' → t = [])
    (digits : ∀ d ∈ c :: t, d.isDigit = true) : isNumber (c :: t) = true := by
  obtain ⟨first, others⟩ := List.forall_mem_cons.1 digits
  have noSign : c ≠ '-' := by
    rintro rfl
    cases first
  by_cases lead : c = '0'
  · subst lead
    rw [zero rfl]
    rfl
  · have all : t.dropWhile Char.isDigit = [] := List.dropWhile_eq_nil_iff.2 others
    simp [isNumber, isMagnitude, noSign, first, all, isFraction, isExponent]

theorem isNumber_ofNat (n : Nat) : isNumber (Text.ofNat n) = true := by
  cases n with
  | zero => rfl
  | succ n =>
    have lead := head?_ofNat (Nat.succ_pos n)
    have digits : ∀ c ∈ Text.ofNat (n + 1), c.isDigit = true := fun _ => Text.isDigit_of_mem_ofNat
    cases h : Text.ofNat (n + 1) with
    | nil => exact absurd h Nat.toDigits_ne_nil
    | cons c t =>
      rw [h] at lead digits
      exact isNumber_of_isDigit (fun zero => absurd (congrArg some zero) lead) digits

theorem asWord?_ofNat (n : UInt64) : asWord? (.number (Text.ofNat n.toNat)) = some n := by
  have digits : (Text.ofNat n.toNat).all Char.isDigit = true :=
    List.all_eq_true.2 fun _ => Text.isDigit_of_mem_ofNat
  have value : Nat.ofDigitChars 10 (Text.ofNat n.toNat) 0 = n.toNat := Nat.ofDigitChars_ten_toDigits
  simp [asWord?, digits, value, n.toNat_lt_size]

theorem member?_perm {ms ms' : List (Option Text × Read)} (perm : ms.Perm ms') (name : Text) :
    member? name ms = member? name ms' := by
  have found := perm.filter fun m => m.1 == some name
  unfold member?
  generalize ms.filter (fun m => m.1 == some name) = l at found
  generalize ms'.filter (fun m => m.1 == some name) = l' at found
  match l, l', found with
  | [], l', found => rw [List.nil_perm.1 found]
  | [m], l', found => rw [List.singleton_perm.1 found]
  | m :: n :: ms, l', found =>
    match l', found.length_eq with
    | _ :: _ :: _, _ => rfl

theorem member?_append {us : List (Option Text × Read)} {name : Text}
    (other : ∀ m ∈ us, m.1 ≠ some name) (ms : List (Option Text × Read)) :
    member? name (ms ++ us) = member? name ms := by
  have none : us.filter (fun m => m.1 == some name) = [] :=
    List.filter_eq_nil_iff.2 fun m mem => by simpa using other m mem
  rw [member?, member?, List.filter_append, none, List.append_nil]

def optional (name : Text) (value : Option Read) : List (Option Text × Read) :=
  (value.map fun v => (some name, v)).toList

theorem filter_optional (name name' : Text) (value : Option Read) :
    (optional name' value).filter (fun m => m.1 == some name) =
      if name' = name then optional name value else [] := by
  cases value with
  | none => simp [optional]
  | some v =>
    by_cases same : name' = name
    · simp [optional, same]
    · simp [optional, same]

theorem isSome_of_mem_optional {name : Text} {value : Option Read} {m : Option Text × Read}
    (mem : m ∈ optional name value) : m.1.isSome = true := by
  cases value with
  | none => cases mem
  | some v =>
    cases List.mem_singleton.1 mem
    rfl

theorem fieldOr_map {α : Type} {decode : Read → Option α} {encode : α → Read}
    (decodes : ∀ v, decode (encode v) = some v) (d : α) (given : Option α) :
    fieldOr d decode (given.map encode) = some (given.getD d) := by
  cases given with
  | none => rfl
  | some v => exact decodes v

end Json

open Json (Read Sound)

namespace Entry

theorem sound_toJson (e : Entry) : Sound e.toJson := by
  refine .object fun m hm => ?_
  simp only [List.mem_cons, List.not_mem_nil, or_false] at hm
  rcases hm with rfl | rfl <;> exact .string _

theorem ofJson?_toJson (e : Entry) : ofJson? (e.toJson.map some) = some e := rfl

end Entry

namespace Settings

theorem sound_toJson (s : Settings) : Sound s.toJson := by
  have recent : Sound (.array (s.recentFiles.map Entry.toJson)) := by
    refine .array fun x hx => ?_
    obtain ⟨e, -, rfl⟩ := List.mem_map.1 hx
    exact e.sound_toJson
  have active : Sound ((s.activeFile.map Json.string).getD .null) := by
    cases s.activeFile with
    | none => exact .null
    | some path => exact .string path
  refine .object fun m hm => ?_
  simp only [List.mem_cons, List.not_mem_nil, or_false] at hm
  rcases hm with rfl | rfl | rfl | rfl | rfl
  · exact recent
  · exact active
  · exact .string _
  · exact .number (Json.isNumber_ofNat _)
  · exact .number (Json.isNumber_ofNat _)

theorem recent_toJson (es : List Entry) :
    (Json.mapItems some (es.map Entry.toJson)).mapM Entry.ofJson? = some es := by
  induction es with
  | nil => rfl
  | cons e es ih => simp [Json.mapItems, Entry.ofJson?_toJson, ih]

theorem active_toJson (active : Option Text) :
    activeOfJson? (((active.map Json.string).getD .null).map some) = some active := by
  cases active with
  | none => rfl
  | some path => rfl

structure Given where
  recentFiles : Option (List Entry) := none
  activeFile : Option (Option Text) := none
  theme : Option Theme := none
  checkInterval : Option UInt64 := none
  maxRecent : Option UInt64 := none

namespace Given

def all (s : Settings) : Given where
  recentFiles := s.recentFiles
  activeFile := some s.activeFile
  theme := s.theme
  checkInterval := s.checkInterval
  maxRecent := s.maxRecent

variable (g : Given)

def settings : Settings where
  recentFiles := g.recentFiles.getD ({} : Settings).recentFiles
  activeFile := g.activeFile.getD ({} : Settings).activeFile
  theme := g.theme.getD ({} : Settings).theme
  checkInterval := g.checkInterval.getD ({} : Settings).checkInterval
  maxRecent := g.maxRecent.getD ({} : Settings).maxRecent

def recentJson (es : List Entry) : Read := (Json.array (es.map Entry.toJson)).map some

def activeJson (active : Option Text) : Read := ((active.map Json.string).getD .null).map some

def themeJson (t : Theme) : Read := .string (some t.name)

def wordJson (n : UInt64) : Read := .number (Text.ofNat n.toNat)

/-- Names and values of the fields that are given, in the form in which they are saved. -/
def members : List (Option Text × Read) :=
  Json.optional "recent_files".toList (g.recentFiles.map recentJson) ++
  Json.optional "active_file".toList (g.activeFile.map activeJson) ++
  Json.optional "theme".toList (g.theme.map themeJson) ++
  Json.optional "check_interval_secs".toList (g.checkInterval.map wordJson) ++
  Json.optional "max_recent".toList (g.maxRecent.map wordJson)

theorem members_all (s : Settings) : s.toJson.map some = .object (all s).members := rfl

end Given

def fieldNames : List Text :=
  ["recent_files".toList, "active_file".toList, "theme".toList, "check_interval_secs".toList,
    "max_recent".toList]

namespace Given

variable {g : Given} {unknown : List (Text × Read)}

theorem member?_members (foreign : ∀ m ∈ unknown, m.1 ∉ fieldNames) {ms : List (Option Text × Read)}
    (order : ms.Perm (g.members ++ unknown.map fun m => (some m.1, m.2))) {name : Text}
    (field : name ∈ fieldNames) :
    Json.member? name ms = Json.member? name g.members := by
  rw [Json.member?_perm order, Json.member?_append]
  refine List.forall_mem_map.2 fun m mem same => ?_
  cases same
  exact foreign m mem field

theorem member?_eq {name : Text} {value : Option Read}
    (found : g.members.filter (fun m => m.1 == some name) = Json.optional name value) :
    Json.member? name g.members = some value := by
  rw [Json.member?, found]
  cases value with
  | none => rfl
  | some v => rfl

theorem ofFields?_eq (g : Given) :
    ofFields? (g.recentFiles.map recentJson) (g.activeFile.map activeJson) (g.theme.map themeJson)
      (g.checkInterval.map wordJson) (g.maxRecent.map wordJson) = some g.settings := by
  have recent : Json.fieldOr [] (Json.asList? Entry.ofJson?) (g.recentFiles.map recentJson) =
      some (g.recentFiles.getD []) := Json.fieldOr_map recent_toJson [] g.recentFiles
  have active : Json.fieldOr none activeOfJson? (g.activeFile.map activeJson) =
      some (g.activeFile.getD none) := Json.fieldOr_map active_toJson none g.activeFile
  have theme : Json.fieldOr .light Theme.ofJson? (g.theme.map themeJson) =
      some (g.theme.getD .light) := Json.fieldOr_map Theme.ofName?_name .light g.theme
  have word (d : UInt64) (given : Option UInt64) :
      Json.fieldOr d Json.asWord? (given.map wordJson) = some (given.getD d) :=
    Json.fieldOr_map Json.asWord?_ofNat d given
  simp [ofFields?, recent, active, theme, word, settings]

theorem ofJson?_object (foreign : ∀ m ∈ unknown, m.1 ∉ fieldNames) {ms : List (Option Text × Read)}
    (order : ms.Perm (g.members ++ unknown.map fun m => (some m.1, m.2))) :
    ofJson? (.object ms) = some g.settings := by
  have named : ms.all (·.1.isSome) = true := by
    refine List.all_eq_true.2 fun m mem => ?_
    rcases List.mem_append.1 (order.mem_iff.1 mem) with given | passed
    · simp only [members, List.mem_append, or_assoc] at given
      rcases given with h | h | h | h | h <;> exact Json.isSome_of_mem_optional h
    · obtain ⟨m, -, rfl⟩ := List.mem_map.1 passed
      rfl
  have found {name : Text} {value : Option Read} (field : name ∈ fieldNames)
      (here : g.members.filter (fun m => m.1 == some name) = Json.optional name value) :
      Json.member? name ms = some value :=
    (member?_members foreign order field).trans (member?_eq here)
  have recent : Json.member? "recent_files".toList ms = some (g.recentFiles.map recentJson) :=
    found (by decide) (by simp [members, Json.filter_optional])
  have active : Json.member? "active_file".toList ms = some (g.activeFile.map activeJson) :=
    found (by decide) (by simp [members, Json.filter_optional])
  have theme : Json.member? "theme".toList ms = some (g.theme.map themeJson) :=
    found (by decide) (by simp [members, Json.filter_optional])
  have interval : Json.member? "check_interval_secs".toList ms =
      some (g.checkInterval.map wordJson) :=
    found (by decide) (by simp [members, Json.filter_optional])
  have most : Json.member? "max_recent".toList ms = some (g.maxRecent.map wordJson) :=
    found (by decide) (by simp [members, Json.filter_optional])
  have allowed : guard (ms.all (·.1.isSome)) = some () := if_pos named
  rw [ofJson?, allowed, recent, active, theme, interval, most]
  exact g.ofFields?_eq

end Given

theorem ofJson?_toJson (s : Settings) : ofJson? (s.toJson.map some) = some s := by
  rw [Given.members_all]
  exact @Given.ofJson?_object (Given.all s) [] nofun _ (.of_eq (List.append_nil _).symm)

theorem parse?_print (s : Settings) : parse? s.print = some s := by
  rw [parse?, print, Json.read_indented s.sound_toJson, Option.bind_some, ofJson?_toJson]

theorem exists_write_of_save {σ : Type} [Host (StateM σ)] {s : Settings} {location : Text}
    {w w' : σ} (h : (save location s : StateM σ _).run w = (.ok (), w')) :
    ∃ w₁ : σ, (Host.write location s.print : StateM σ _).run w₁ = (.ok (), w') := by
  obtain ⟨dirs, next, saves, writes, fails⟩ :
      ∃ (dirs : StateM σ (Except IoError Unit)) (next : _ → StateM σ _),
        save location s = dirs >>= next ∧ next (.ok ()) = Host.write location s.print ∧
          ∀ e, next (.error e) = return .error e := by
    unfold save
    split
    · exact ⟨_, _, rfl, rfl, fun _ => rfl⟩
    · exact ⟨_, _, rfl, rfl, fun _ => rfl⟩
  rw [saves, StateT.run_bind] at h
  cases made : dirs.run w with
  | mk result w₁ =>
    rw [made] at h
    cases result with
    | error e =>
      have failed : (next (.error e)).run w₁ = (.ok (), w') := h
      rw [fails] at failed
      cases congrArg Prod.fst failed
    | ok =>
      have written : (next (.ok ())).run w₁ = (.ok (), w') := h
      rw [writes] at written
      exact ⟨w₁, written⟩

theorem write_of_save {s : Settings} {location : Text} {t t' : FileTree}
    (h : (save location s : StateM FileTree _).run t = (.ok (), t')) :
    ∃ t₁ : FileTree, t₁.write location s.print = .ok t' := by
  obtain ⟨t₁, written⟩ := exists_write_of_save h
  exact ⟨t₁, FileTree.write_of_run written⟩

theorem load_of_read {s : Settings} {location text : Text} {t : FileTree}
    (h : t.read location = .ok text) (parsed : parse? text = some s) :
    (load location : StateM FileTree Settings).run t = (s, t) := by
  have reads : (Host.read location : StateM FileTree _).run t = (.ok text, t) :=
    congrArg (·, t) h
  rw [load, StateT.run_bind, reads]
  exact congrArg (fun settings : Option Settings => (settings.getD {}, t)) parsed

/-- What is saved is what is loaded, for all settings and wherever they could be written. -/
theorem settings_survive_saving (s : Settings) :
    parse? s.print = some s ∧
      ∀ (location : Text) (t t' : FileTree),
        (save location s : StateM FileTree _).run t = (.ok (), t') →
          (load location : StateM FileTree Settings).run t' = (s, t') := by
  refine ⟨s.parse?_print, fun location t t' saved => ?_⟩
  obtain ⟨t₁, written⟩ := write_of_save saved
  exact load_of_read (FileTree.read_of_write written) s.parse?_print

def awkward : Settings where
  recentFiles := [⟨"a \"b\".sh".toList, ['\\', '\n', '\x00']⟩, ⟨"a \"b\".sh".toList, ['𝄞']⟩]
  activeFile := some ['\x1f', '/']
  theme := .bashDark
  checkInterval := 18446744073709551615
  maxRecent := 0

theorem awkward_settings_survive_saving :
    parse? awkward.print = some awkward ∧
      ∃ t : FileTree, (save "desk/settings.json".toList awkward : StateM FileTree _).run ⟨[], []⟩ =
          (.ok (), t) ∧
        (load "desk/settings.json".toList : StateM FileTree Settings).run t = (awkward, t) := by
  obtain ⟨t, saved⟩ : ∃ t : FileTree,
      (save "desk/settings.json".toList awkward : StateM FileTree _).run ⟨[], []⟩ = (.ok (), t) :=
    ⟨_, Prod.ext (by rfl) rfl⟩
  obtain ⟨printed, loaded⟩ := settings_survive_saving awkward
  exact ⟨printed, t, saved, loaded _ _ _ saved⟩

end Settings
end ScriptDesk
