import ScriptDesk.Highlight.Span
import ScriptDesk.Text.Offset

namespace ScriptDesk

/-- What stands between two byte positions.  None if they cross, or if one lies inside a character
or past the end. -/
def Text.between (i j : Nat) (t : Text) : Option Text :=
  (splitAtByte j t).bind fun (front, _) => (splitAtByte i front).map (·.2)

def Text.charsBefore (n : Nat) (t : Text) : Nat :=
  ((splitAtByte n t).map (·.1.length)).getD t.length

namespace Highlight

def spansFromByte (line : Text) :
    Nat → Ops → ScopeStack → List Span → Option (Option (List Span × ScopeStack))
  | from_, [], k, spans =>
    if from_ < Text.byteSize line then
      (Text.between from_ (Text.byteSize line) line).map fun text =>
        some ((addSpan text k.style spans).reverse, k)
    else some (some (spans.reverse, k))
  | from_, (at_, op) :: ops, k, spans =>
    let cut :=
      if from_ < at_ then (Text.between from_ at_ line).map fun text => addSpan text k.style spans
      else some spans
    match cut, op.apply k with
    | none, _ => none
    | some _, none => some none
    | some spans, some k' => spansFromByte line at_ ops k' spans

variable (g : Grammar)

def Grammar.spansInBytes (p : g.Progress) (line : Text) :
    Option (Option (List Span × g.Progress)) :=
  match g.parse p.1 line with
  | none => some none
  | some (ops, state) =>
    (spansFromByte line 0 ops p.2 []).map fun r => r.map fun (spans, k) => (spans, state, k)

def Ops.inCharacters (line : Text) (ops : Ops) : Ops :=
  ops.map fun (at_, op) => (Text.charsBefore at_ line, op)

def Ops.inBytes (line : Text) (ops : Ops) : Ops :=
  ops.map fun (at_, op) => (Text.byteSize (line.take at_), op)

def Grammar.inCharacters : Grammar :=
  { g with parse := fun s line =>
      (g.parse s line).map fun (ops, s) => (Ops.inCharacters line ops, s) }

def Grammar.inBytes : Grammar :=
  { g with parse := fun s line => (g.parse s line).map fun (ops, s) => (Ops.inBytes line ops, s) }

end Highlight
end ScriptDesk
