import ScriptDesk.Json.Token
import ScriptDesk.Json.Value

/-! JSON values from tokens.  The reader is fed one token at a time and keeps the containers that
are still open on a stack, so that values may nest to any depth. -/

namespace ScriptDesk.Json

abbrev Read := Json (Option Text)

inductive Frame
  | item (items : List Read)
  | member (members : List (Option Text × Read)) (key : Option Text)

inductive Expect
  | value (stack : List Frame)
  | arrayStart (stack : List Frame)
  | arrayMore (items : List Read) (stack : List Frame)
  | objectStart (stack : List Frame)
  | objectKey (members : List (Option Text × Read)) (stack : List Frame)
  | objectColon (members : List (Option Text × Read)) (key : Option Text) (stack : List Frame)
  | objectMore (members : List (Option Text × Read)) (stack : List Frame)
  | done (value : Read)

def Expect.close (v : Read) : List Frame → Expect
  | [] => .done v
  | .item items :: stack => .arrayMore (v :: items) stack
  | .member members key :: stack => .objectMore ((key, v) :: members) stack

def Expect.start (stack : List Frame) : Token → Option Expect
  | .null => some (.close .null stack)
  | .bool b => some (.close (.bool b) stack)
  | .number literal => some (.close (.number literal) stack)
  | .string s => some (.close (.string s) stack)
  | .openArray => some (.arrayStart stack)
  | .openObject => some (.objectStart stack)
  | _ => none

def Expect.feed (t : Token) : Expect → Option Expect
  | .value stack => Expect.start stack t
  | .arrayStart stack =>
    if t = .closeArray then some (.close (.array []) stack) else Expect.start (.item [] :: stack) t
  | .arrayMore items stack =>
    match t with
    | .comma => some (.value (.item items :: stack))
    | .closeArray => some (.close (.array items.reverse) stack)
    | _ => none
  | .objectStart stack =>
    match t with
    | .closeObject => some (.close (.object []) stack)
    | .string key => some (.objectColon [] key stack)
    | _ => none
  | .objectKey members stack =>
    match t with
    | .string key => some (.objectColon members key stack)
    | _ => none
  | .objectColon members key stack =>
    if t = .colon then some (.value (.member members key :: stack)) else none
  | .objectMore members stack =>
    match t with
    | .comma => some (.objectKey members stack)
    | .closeObject => some (.close (.object members.reverse) stack)
    | _ => none
  | .done _ => none

def Expect.feedAll (e : Expect) (ts : List Token) : Option Expect := ts.foldlM (fun e t => e.feed t) e

theorem Expect.feedAll_append (e : Expect) (s t : List Token) :
    e.feedAll (s ++ t) = (e.feedAll s).bind (·.feedAll t) := by
  simp [Expect.feedAll, List.foldlM_append, bind]

def read (t : Text) : Option Read := do
  let tokens ← scan t
  match ← (Expect.value []).feedAll tokens with
  | .done v => some v
  | _ => none

end ScriptDesk.Json
