import ScriptDesk.Text.Basic

namespace ScriptDesk.Text

abbrev Ranges := Array (Nat × Nat)

def Ranges.covers (rs : Ranges) (n : Nat) : Bool :=
  rs.any fun (first, last) => first ≤ n && n ≤ last

end ScriptDesk.Text
