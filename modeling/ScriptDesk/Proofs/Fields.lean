import ScriptDesk.Proofs.Grammar
import ScriptDesk.Proofs.Settings

namespace ScriptDesk
namespace Settings

open Json (Read Written)

/-- Fields in their saved form, in any order and between other members, however the object is
written, are read as what they give; the other fields have their defaults. -/
theorem given_read_in_any_order (g : Given) {unknown : List (Text × Read)}
    (foreign : ∀ m ∈ unknown, m.1 ∉ fieldNames) {ms : List (Option Text × Read)}
    (order : ms.Perm (g.members ++ unknown.map fun m => (some m.1, m.2))) {t : Text}
    (written : Written t (.object ms)) :
    parse? t = some g.settings ∧
      ∀ (location : Text) (tree : FileTree), tree.read location = .ok t →
        (load location : StateM FileTree Settings).run tree = (g.settings, tree) := by
  have parsed : parse? t = some g.settings := by
    rw [parse?, Json.read_of_written written, Option.bind_some, Given.ofJson?_object foreign order]
  exact ⟨parsed, fun location tree found => load_of_read found parsed⟩

theorem written_nested :
    Written "[1.5e+3, \x7b\"theme\":\"\\ud800\"\x7d, [ ]]".toList
      (.array [.number "1.5e+3".toList, .object [(some "theme".toList, .string none)],
        .array []]) := by
  have number : Json.Number ([] ++ ['1'] ++ ".5".toList ++ "e+3".toList) :=
    .parts (.inl rfl) (.digits (by decide) (by decide)) (.point (by decide))
      (.power (.inl rfl) (.inr (.inl rfl)) (by decide))
  have half : Json.WrittenMark ['\\', 'u', 'd', '8', '0', '0']
      (.unit (((13 * 16 + 8) * 16 + 0) * 16 + 0)) := .unit rfl rfl rfl rfl
  have lone : Json.WrittenString "\"\\ud800\"".toList none :=
    .marks [(_, _)] (List.forall_mem_singleton.2 half)
  have key : Json.WrittenKey "\"theme\"".toList (some "theme".toList) :=
    .pad Json.white_nil (Json.writtenString_quote "theme".toList) Json.white_nil
  have object : Written "\x7b\"theme\":\"\\ud800\"\x7d".toList
      (.object [(some "theme".toList, .string none)]) :=
    .object Json.white_nil [⟨"\"theme\"".toList, _, _, _⟩] (List.forall_mem_singleton.2 key)
      (List.forall_mem_singleton.2 (.string lone))
  have empty : Written "[ ]".toList (.array []) := .array Json.white_space [] nofun
  exact .array Json.white_nil [(_, _), (_, _), (_, _)]
    (List.forall_mem_cons.2 ⟨.number number, List.forall_mem_cons.2
      ⟨.pad Json.white_space object Json.white_nil,
        List.forall_mem_singleton.2 (.pad Json.white_space empty Json.white_nil)⟩⟩)

theorem written_escaped : Json.WrittenString "\"\\u0074heme\"".toList (some "theme".toList) := by
  have escape : Json.WrittenMark ['\\', 'u', '0', '0', '7', '4']
      (.unit (((0 * 16 + 0) * 16 + 7) * 16 + 4)) := .unit rfl rfl rfl rfl
  have plain (c : Char) (h : c ≠ '"' ∧ c ≠ '\\' ∧ 0x20 ≤ c.toNat) :
      Json.WrittenMark [c] (.char c) := .plain h.1 h.2.1 h.2.2
  exact .marks [(_, _), (_, _), (_, _), (_, _), (_, _)]
    (List.forall_mem_cons.2 ⟨escape, List.forall_mem_cons.2 ⟨plain 'h' (by decide),
      List.forall_mem_cons.2 ⟨plain 'e' (by decide), List.forall_mem_cons.2
        ⟨plain 'm' (by decide), List.forall_mem_singleton.2 (plain 'e' (by decide))⟩⟩⟩⟩)

theorem theme_found_among_others :
    let text := ("\x7b\"x\" : [1.5e+3, \x7b\"theme\":\"\\ud800\"\x7d, [ ]]," ++
      "\t\"max_recent\" :7,\"\\u0074heme\":\"dark\" , \"x\":null\x7d\n").toList
    let nested : Read := .array [.number "1.5e+3".toList,
      .object [(some "theme".toList, .string none)], .array []]
    let unknown : List (Text × Read) := [(['x'], nested), (['x'], .null)]
    let members : List (Option Text × Read) :=
      [(some ['x'], nested), (some "max_recent".toList, .number ['7']),
        (some "theme".toList, .string (some "dark".toList)), (some ['x'], .null)]
    let given : Given := { theme := some .dark, maxRecent := some 7 }
    (∀ m ∈ unknown, m.1 ∉ fieldNames) ∧
      members.Perm (given.members ++ unknown.map fun m => (some m.1, m.2)) ∧
      Written text (.object members) ∧
      parse? text = some { theme := .dark, maxRecent := 7 } := by
  intro text nested unknown members given
  have foreign : ∀ m ∈ unknown, m.1 ∉ fieldNames := by simp [unknown, fieldNames]
  have order : members.Perm (given.members ++ unknown.map fun m => (some m.1, m.2)) := by
    have first := List.reverse_perm (given.members ++ [(some ['x'], nested)])
    exact first.append_right [(some ['x'], .null)]
  have seven : Json.Number ([] ++ ['7'] ++ [] ++ []) :=
    .parts (.inl rfl) (.digits (by decide) (by decide)) .none .none
  have name (t : Text) : Json.WrittenString (Json.quote t) (some t) := Json.writtenString_quote t
  have written : Written text (.object members) := by
    have tab : Json.White ['\t'] := by decide
    have newline : Json.White ['\n'] := by decide
    have whole := Written.object Json.white_nil
      [⟨"\"x\" ".toList, some ['x'], _, nested⟩,
        ⟨"\t\"max_recent\" ".toList, some "max_recent".toList, ['7'], .number ['7']⟩,
        ⟨"\"\\u0074heme\"".toList, some "theme".toList, "\"dark\" ".toList, _⟩,
        ⟨" \"x\"".toList, some ['x'], "null".toList, .null⟩]
      (List.forall_mem_cons.2 ⟨.pad Json.white_nil (name ['x']) Json.white_space,
        List.forall_mem_cons.2 ⟨.pad tab (name "max_recent".toList) Json.white_space,
          List.forall_mem_cons.2 ⟨.pad Json.white_nil written_escaped Json.white_nil,
            List.forall_mem_singleton.2 (.pad Json.white_space (name ['x']) Json.white_nil)⟩⟩⟩)
      (List.forall_mem_cons.2 ⟨.pad Json.white_space written_nested Json.white_nil,
        List.forall_mem_cons.2 ⟨.number seven, List.forall_mem_cons.2
          ⟨.pad Json.white_nil (.string (name "dark".toList)) Json.white_space,
            List.forall_mem_singleton.2 .null⟩⟩⟩)
    exact .pad Json.white_nil whole newline
  exact ⟨foreign, order, written, (given_read_in_any_order given foreign order written).1⟩

end Settings
end ScriptDesk
