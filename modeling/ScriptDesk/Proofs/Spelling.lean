import ScriptDesk.Json.Reader
import ScriptDesk.Proofs.Tokens

/-! Texts that spell JSON values.  What is put together of texts that spell values the way arrays
and objects are written, with white space anywhere between the tokens, spells the array or the
object; and the reader reads a text as the value it spells.  Printed values are of this kind. -/

namespace ScriptDesk.Json

/-- The tokens are those of the value: wherever a value is expected they complete it. -/
structure Completes (ts : List Token) (v : Read) : Prop where
  feeds : ∀ stack, (Expect.value stack).feedAll ts = some (.close v stack)
  starts : ∃ t rest, ts = t :: rest ∧ t ≠ .closeArray

structure CompletesItems (ts : List Token) (xs : List Read) : Prop where
  feeds : ∀ items stack, (Expect.value (.item items :: stack)).feedAll (ts ++ [.closeArray]) =
    some (.close (.array (items.reverse ++ xs)) stack)
  starts : ∃ t rest, ts = t :: rest ∧ t ≠ .closeArray

structure CompletesMembers (ts : List Token) (ms : List (Option Text × Read)) : Prop where
  feeds : ∀ members stack, (Expect.objectKey members stack).feedAll (ts ++ [.closeObject]) =
    some (.close (.object (members.reverse ++ ms)) stack)
  starts : ∃ key rest, ts = .string key :: rest

@[simp] theorem Expect.feedAll_cons (e : Expect) (t : Token) (ts : List Token) :
    e.feedAll (t :: ts) = (e.feed t).bind (·.feedAll ts) := rfl

@[simp] theorem Expect.feedAll_nil (e : Expect) : e.feedAll [] = some e := rfl

theorem completes_of_start {t : Token} {v : Read} (other : t ≠ .closeArray)
    (h : ∀ stack, Expect.start stack t = some (.close v stack)) : Completes [t] v where
  feeds stack := by simp [Expect.feed, h]
  starts := ⟨t, [], rfl, other⟩

theorem Completes.item {ts : List Token} {v : Read} (h : Completes ts v) :
    CompletesItems ts [v] where
  feeds items stack := by
    rw [Expect.feedAll_append, h.feeds]
    simp [Expect.close, Expect.feed]
  starts := h.starts

theorem Completes.items {ts us : List Token} {v : Read} {xs : List Read} (h : Completes ts v)
    (hs : CompletesItems us xs) : CompletesItems (ts ++ .comma :: us) (v :: xs) where
  feeds items stack := by
    rw [List.append_assoc, Expect.feedAll_append, h.feeds]
    simpa [Expect.close, Expect.feed] using hs.feeds (v :: items) stack
  starts := by
    obtain ⟨t, rest, rfl, other⟩ := h.starts
    exact ⟨t, _, rfl, other⟩

theorem CompletesItems.array {ts : List Token} {xs : List Read} (h : CompletesItems ts xs) :
    Completes (.openArray :: ts ++ [.closeArray]) (.array xs) where
  feeds stack := by
    have inside := h.feeds [] stack
    obtain ⟨t, rest, rfl, other⟩ := h.starts
    -- the first token shows that the array is not empty
    simpa [Expect.feed, Expect.start, other] using inside
  starts := ⟨_, _, rfl, nofun⟩

theorem completes_empty_array : Completes [.openArray, .closeArray] (.array []) where
  feeds _ := rfl
  starts := ⟨_, _, rfl, nofun⟩

theorem Completes.member {ts : List Token} {v : Read} (h : Completes ts v) (key : Option Text) :
    CompletesMembers (.string key :: .colon :: ts) [(key, v)] where
  feeds members stack := by
    have value := h.feeds (.member members key :: stack)
    simp [Expect.feed, Expect.feedAll_append, value, Expect.close]
  starts := ⟨key, _, rfl⟩

theorem Completes.members {ts us : List Token} {v : Read} {ms : List (Option Text × Read)}
    (h : Completes ts v) (key : Option Text) (hs : CompletesMembers us ms) :
    CompletesMembers (.string key :: .colon :: ts ++ .comma :: us) ((key, v) :: ms) where
  feeds members stack := by
    have value := h.feeds (.member members key :: stack)
    have others := hs.feeds ((key, v) :: members) stack
    simpa [Expect.feed, Expect.feedAll_append, value, Expect.close] using others
  starts := ⟨key, _, rfl⟩

theorem CompletesMembers.object {ts : List Token} {ms : List (Option Text × Read)}
    (h : CompletesMembers ts ms) :
    Completes (.openObject :: ts ++ [.closeObject]) (.object ms) where
  feeds stack := by
    have inside := h.feeds [] stack
    obtain ⟨key, rest, rfl⟩ := h.starts
    simpa [Expect.feed, Expect.start] using inside
  starts := ⟨_, _, rfl, nofun⟩

theorem completes_empty_object : Completes [.openObject, .closeObject] (.object []) where
  feeds _ := rfl
  starts := ⟨_, _, rfl, nofun⟩

def Spelled (kind : List Token → Prop) (t : Text) : Prop := ∃ ts, Scans t ts ∧ kind ts

abbrev Spells (t : Text) (v : Read) : Prop := Spelled (Completes · v) t

abbrev SpellsItems (t : Text) (xs : List Read) : Prop := Spelled (CompletesItems · xs) t

abbrev SpellsMembers (t : Text) (ms : List (Option Text × Read)) : Prop :=
  Spelled (CompletesMembers · ms) t

theorem read_of_spells {t : Text} {v : Read} (h : Spells t v) : read t = some v := by
  obtain ⟨ts, scans, completes⟩ := h
  simp [read, scans.scan, completes.feeds, Expect.close]

def White (t : Text) : Prop := ∀ c ∈ t, isSpace c = true

instance (t : Text) : Decidable (White t) :=
  decidable_of_iff (t.all isSpace = true) List.all_eq_true

theorem White.delimits {t : Text} (h : White t) : Delimits t := by
  intro c hc
  have space := h c (List.mem_of_head? hc)
  simp only [isSpace, Bool.or_eq_true, beq_iff_eq] at space
  rcases space with ((rfl | rfl) | rfl) | rfl <;> decide

theorem White.leads {t : Text} (h : White t) : Leads .between t [] .between := by
  induction t with
  | nil => exact .nil _
  | cons c t ih =>
    obtain ⟨here, others⟩ := List.forall_mem_cons.1 h
    refine .cons ?_ (ih others)
    simp only [isSpace, Bool.or_eq_true, beq_iff_eq] at here
    rcases here with ((rfl | rfl) | rfl) | rfl <;> rfl

theorem Scans.pad {a t b : Text} {ts : List Token} (h : Scans t ts) (ha : White a) (hb : White b) :
    Scans (a ++ t ++ b) ts := by
  simpa using (ha.leads.append_scans h).append hb.leads.scans hb.delimits

theorem Spelled.pad {kind : List Token → Prop} {a t b : Text} (h : Spelled kind t) (ha : White a)
    (hb : White b) : Spelled kind (a ++ t ++ b) :=
  h.imp fun _ h => h.imp_left fun scans => scans.pad ha hb

theorem spells_string {t : Text} {content : Option Text}
    (h : Leads .between t [.string content] .between) : Spells t (.string content) :=
  ⟨_, h.scans, completes_of_start nofun fun _ => rfl⟩

theorem spells_number {literal : Text} (h : isNumber literal = true) :
    Spells literal (.number literal) :=
  ⟨_, scans_number h, completes_of_start nofun fun _ => rfl⟩

theorem spells_null : Spells "null".toList .null :=
  ⟨_, scans_word rfl rfl rfl, completes_of_start nofun fun _ => rfl⟩

theorem spells_bool (b : Bool) : Spells (printBool b) (.bool b) := by
  cases b with
  | true => exact ⟨_, scans_word rfl rfl rfl, completes_of_start nofun fun _ => rfl⟩
  | false => exact ⟨_, scans_word rfl rfl rfl, completes_of_start nofun fun _ => rfl⟩

theorem Scans.around {s t : Text} {ss ts : List Token} {c : Char} {token : Token}
    (hs : Scans s ss) (mark : State.feed c .between = some ([token], .between))
    (delimits : Delimits [c]) (ht : Scans t ts) : Scans (s ++ c :: t) (ss ++ token :: ts) :=
  hs.append ((Leads.of_feed mark).append_scans ht) delimits

theorem Scans.enclosed {t : Text} {ts : List Token} {c d : Char} {opens closes : Token}
    (h : Scans t ts) (left : State.feed c .between = some ([opens], .between))
    (right : State.feed d .between = some ([closes], .between)) (delimits : Delimits [d]) :
    Scans (c :: t ++ [d]) (opens :: ts ++ [closes]) :=
  ((Leads.of_feed left).append_scans h).append (Leads.of_feed right).scans delimits

theorem Spells.item {t : Text} {v : Read} (h : Spells t v) : SpellsItems t [v] :=
  h.imp fun _ h => h.imp_right fun completes => completes.item

theorem Spells.items {t u : Text} {v : Read} {xs : List Read} (h : Spells t v)
    (hs : SpellsItems u xs) : SpellsItems (t ++ ',' :: u) (v :: xs) := by
  obtain ⟨ts, scans, completes⟩ := h
  obtain ⟨us, others, more⟩ := hs
  exact ⟨_, scans.around rfl (delimits_cons [] rfl rfl) others, completes.items more⟩

theorem SpellsItems.array {t : Text} {xs : List Read} (h : SpellsItems t xs) :
    Spells ('[' :: t ++ [']']) (.array xs) := by
  obtain ⟨ts, scans, completes⟩ := h
  exact ⟨_, scans.enclosed rfl rfl (delimits_cons [] rfl rfl), completes.array⟩

theorem spells_empty_array : Spells "[]".toList (.array []) :=
  ⟨_, ((Leads.of_feed rfl).append (Leads.of_feed rfl)).scans, completes_empty_array⟩

theorem Scans.member {k t : Text} {key : Option Text} {ts : List Token}
    (hk : Leads .between k [.string key] .between) (h : Scans t ts) :
    Scans (k ++ ':' :: t) (.string key :: .colon :: ts) :=
  hk.scans.around rfl (delimits_cons [] rfl rfl) h

theorem Spells.member {k t : Text} {key : Option Text} {v : Read} (h : Spells t v)
    (hk : Leads .between k [.string key] .between) : SpellsMembers (k ++ ':' :: t) [(key, v)] := by
  obtain ⟨ts, scans, completes⟩ := h
  exact ⟨_, scans.member hk, completes.member key⟩

theorem Spells.members {k t u : Text} {key : Option Text} {v : Read}
    {ms : List (Option Text × Read)} (h : Spells t v) (hk : Leads .between k [.string key] .between)
    (hs : SpellsMembers u ms) : SpellsMembers (k ++ ':' :: t ++ ',' :: u) ((key, v) :: ms) := by
  obtain ⟨ts, scans, completes⟩ := h
  obtain ⟨us, others, more⟩ := hs
  exact ⟨_, (scans.member hk).around rfl (delimits_cons [] rfl rfl) others,
    completes.members key more⟩

theorem SpellsMembers.object {t : Text} {ms : List (Option Text × Read)} (h : SpellsMembers t ms) :
    Spells ('\x7b' :: t ++ ['\x7d']) (.object ms) := by
  obtain ⟨ts, scans, completes⟩ := h
  exact ⟨_, scans.enclosed rfl rfl (delimits_cons [] rfl rfl), completes.object⟩

theorem spells_empty_object : Spells ['\x7b', '\x7d'] (.object []) :=
  ⟨_, ((Leads.of_feed rfl).append (Leads.of_feed rfl)).scans, completes_empty_object⟩

mutual

def map (f : σ → τ) : Json σ → Json τ
  | .null => .null
  | .bool b => .bool b
  | .number literal => .number literal
  | .string s => .string (f s)
  | .array xs => .array (mapItems f xs)
  | .object ms => .object (mapMembers f ms)

def mapItems (f : σ → τ) : List (Json σ) → List (Json τ)
  | [] => []
  | x :: xs => map f x :: mapItems f xs

def mapMembers (f : σ → τ) : List (σ × Json σ) → List (τ × Json τ)
  | [] => []
  | (k, v) :: ms => (f k, map f v) :: mapMembers f ms

end

inductive Sound : Json σ → Prop
  | null : Sound .null
  | bool (b : Bool) : Sound (.bool b)
  | number {literal : Text} (number : isNumber literal = true) : Sound (.number literal)
  | string (s : σ) : Sound (.string s)
  | array {xs : List (Json σ)} (items : ∀ x ∈ xs, Sound x) : Sound (.array xs)
  | object {ms : List (σ × Json σ)} (members : ∀ m ∈ ms, Sound m.2) : Sound (.object ms)

theorem white_newLine (depth : Nat) : White (newLine depth) := by
  refine List.forall_mem_cons.2 ⟨rfl, fun c hc => ?_⟩
  rw [List.eq_of_mem_replicate hc]
  rfl

theorem white_nil : White [] := nofun

theorem white_space : White [' '] := by simp [White, isSpace]

theorem spellsItems_indented {xs : List (Json Text)} (nonempty : xs ≠ [])
    (each : ∀ x ∈ xs, ∀ depth, Spells (indented depth x) (x.map .some)) (depth : Nat) :
    SpellsItems (indentedItems depth xs) (mapItems .some xs) := by
  induction xs with
  | nil => exact absurd rfl nonempty
  | cons x xs ih =>
    obtain ⟨here, others⟩ := List.forall_mem_cons.1 each
    have first : Spells (newLine depth ++ indented depth x) (x.map .some) := by
      simpa using (here depth).pad (white_newLine depth) white_nil
    cases xs with
    | nil => simpa [indentedItems, mapItems] using first.item
    | cons y xs =>
      have more := first.items (ih (List.cons_ne_nil y xs) others)
      simpa [indentedItems, mapItems] using more

theorem spellsMembers_indented {ms : List (Text × Json Text)} (nonempty : ms ≠ [])
    (each : ∀ m ∈ ms, ∀ depth, Spells (indented depth m.2) (m.2.map .some)) (depth : Nat) :
    SpellsMembers (indentedMembers depth ms) (mapMembers .some ms) := by
  induction ms with
  | nil => exact absurd rfl nonempty
  | cons m ms ih =>
    obtain ⟨k, v⟩ := m
    obtain ⟨here, others⟩ := List.forall_mem_cons.1 each
    have value : Spells (' ' :: indented depth v) (v.map .some) := by
      simpa using (here depth).pad white_space white_nil
    have key : Leads .between (newLine depth ++ quote k) [.string (.some k)] .between :=
      (white_newLine depth).leads.append (leads_quote k)
    cases ms with
    | nil => simpa [indentedMembers, mapMembers] using value.member key
    | cons m' ms =>
      have more := value.members key (ih (List.cons_ne_nil m' ms) others)
      simpa [indentedMembers, mapMembers] using more

theorem spells_indented {v : Json Text} (sound : Sound v) (depth : Nat) :
    Spells (indented depth v) (v.map some) := by
  induction sound generalizing depth with
  | null => exact spells_null
  | bool b => exact spells_bool b
  | number number => exact spells_number number
  | string s => exact spells_string (leads_quote s)
  | @array xs items ih =>
    cases xs with
    | nil => exact spells_empty_array
    | cons x xs =>
      have inside : SpellsItems (indentedItems (depth + 1) (x :: xs) ++ newLine depth)
          (mapItems some (x :: xs)) :=
        (spellsItems_indented (List.cons_ne_nil x xs) ih (depth + 1)).pad white_nil
          (white_newLine depth)
      simpa [indented, map] using inside.array
  | @object ms members ih =>
    cases ms with
    | nil => exact spells_empty_object
    | cons m ms =>
      have inside : SpellsMembers (indentedMembers (depth + 1) (m :: ms) ++ newLine depth)
          (mapMembers some (m :: ms)) :=
        (spellsMembers_indented (List.cons_ne_nil m ms) ih (depth + 1)).pad white_nil
          (white_newLine depth)
      simpa [indented, map] using inside.object

theorem read_indented {v : Json Text} (sound : Sound v) (depth : Nat) :
    read (indented depth v) = some (v.map some) := read_of_spells (spells_indented sound depth)

end ScriptDesk.Json
