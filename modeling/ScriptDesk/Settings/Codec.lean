import ScriptDesk.Settings.Basic
import ScriptDesk.Json.Reader
import ScriptDesk.Json.Printer

/-! Settings as JSON.  A record is written as an object of its fields in order.  It is read from an
object, where the order is free and unknown members are passed over, or from an array of its
fields. -/

namespace ScriptDesk

open Json (Read)

/-- The value of a member; none if it is missing, an error if it is given twice. -/
def Json.member? (name : Text) (members : List (Option Text × Read)) : Option (Option Read) :=
  match members.filter fun m => m.1 == some name with
  | [] => some none
  | [m] => some (some m.2)
  | _ => none

def Json.asText? : Read → Option Text
  | .string s => s
  | _ => none

def Json.asWord? : Read → Option UInt64
  | .number literal =>
    if literal.all Char.isDigit then
      let n := Nat.ofDigitChars 10 literal 0
      if n < UInt64.size then some (UInt64.ofNat n) else none
    else none
  | _ => none

def Json.asList? (item : Read → Option α) : Read → Option (List α)
  | .array xs => xs.mapM item
  | _ => none

def Json.fieldOr (d : α) (decode : Read → Option α) : Option Read → Option α
  | none => some d
  | some v => decode v

namespace Entry

def toJson (e : Entry) : Json Text :=
  .object [("path".toList, .string e.path), ("display_name".toList, .string e.displayName)]

def ofJson? : Read → Option Entry
  | .object members => do
    guard (members.all (·.1.isSome))
    let path ← (← Json.member? "path".toList members).bind Json.asText?
    let name ← (← Json.member? "display_name".toList members).bind Json.asText?
    return ⟨path, name⟩
  | .array [path, name] => return ⟨← Json.asText? path, ← Json.asText? name⟩
  | _ => none

end Entry

/-- A theme is written as its name.  An object with that name and null is read as well. -/
def Theme.ofJson? : Read → Option Theme
  | .string (some name) => Theme.ofName? name
  | .object [(some name, .null)] => Theme.ofName? name
  | _ => none

def activeOfJson? : Read → Option (Option Text)
  | .null => some none
  | v => (Json.asText? v).map some

namespace Settings

def toJson (s : Settings) : Json Text :=
  .object [
    ("recent_files".toList, .array (s.recentFiles.map Entry.toJson)),
    ("active_file".toList, (s.activeFile.map Json.string).getD .null),
    ("theme".toList, .string s.theme.name),
    ("check_interval_secs".toList, .number (Text.ofNat s.checkInterval.toNat)),
    ("max_recent".toList, .number (Text.ofNat s.maxRecent.toNat))]

def ofFields? (recent active theme interval most : Option Read) : Option Settings := do
  return {
    recentFiles := ← Json.fieldOr [] (Json.asList? Entry.ofJson?) recent
    activeFile := ← Json.fieldOr none activeOfJson? active
    theme := ← Json.fieldOr .light Theme.ofJson? theme
    checkInterval := ← Json.fieldOr 5 Json.asWord? interval
    maxRecent := ← Json.fieldOr 20 Json.asWord? most }

def ofJson? : Read → Option Settings
  | .object members => do
    guard (members.all (·.1.isSome))
    ofFields?
      (← Json.member? "recent_files".toList members)
      (← Json.member? "active_file".toList members)
      (← Json.member? "theme".toList members)
      (← Json.member? "check_interval_secs".toList members)
      (← Json.member? "max_recent".toList members)
  | .array xs =>
    if xs.length ≤ 5 then ofFields? xs[0]? xs[1]? xs[2]? xs[3]? xs[4]? else none
  | _ => none

def print (s : Settings) : Text := Json.indented 0 s.toJson

def parse? (t : Text) : Option Settings := (Json.read t).bind ofJson?

end Settings
end ScriptDesk
