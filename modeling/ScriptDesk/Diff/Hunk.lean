import ScriptDesk.Diff.Script

/-! Hunks.  Neighbouring deletions and insertions become one change, long stretches of equal lines
separate hunks, and a hunk shows at most a few equal lines around its changes. -/

namespace ScriptDesk.Diff

structure Region where
  same : Bool
  old : Nat
  oldLen : Nat
  new : Nat
  newLen : Nat
  deriving DecidableEq, Repr

def Edit.grow (e : Edit) : Option Edit → Edit
  | none => e
  | some first => { first with len := first.len + e.len }

def keptRegion : Option Edit → List Region
  | none => []
  | some k => [⟨true, k.old, k.len, k.new, k.len⟩]

def changedRegion : Option Edit → Option Edit → List Region
  | none, none => []
  | some d, none => [⟨false, d.old, d.len, d.new, 0⟩]
  | none, some i => [⟨false, i.old, 0, i.new, i.len⟩]
  | some d, some i => [⟨false, d.old, d.len, i.new, i.len⟩]

def regionsFrom (kept deleted inserted : Option Edit) : List Edit → List Region
  | [] => keptRegion kept ++ changedRegion deleted inserted
  | e :: es =>
    match e.kind with
    | .keep => changedRegion deleted inserted ++ regionsFrom (some (e.grow kept)) none none es
    | .delete => keptRegion kept ++ regionsFrom none (some (e.grow deleted)) inserted es
    | .insert => keptRegion kept ++ regionsFrom none deleted (some (e.grow inserted)) es

def regions (script : List Edit) : List Region := regionsFrom none none none script

def Region.lastLines (n : Nat) (r : Region) : Region :=
  let off := r.oldLen - n
  ⟨r.same, r.old + off, r.oldLen - off, r.new + off, r.newLen - off⟩

def Region.firstLines (n : Nat) (r : Region) : Region :=
  let off := r.oldLen - n
  ⟨r.same, r.old, r.oldLen - off, r.new, r.newLen - off⟩

def trimFirst (n : Nat) : List Region → List Region
  | [] => []
  | r :: rs => (if r.same then r.lastLines n else r) :: rs

def trimLast (n : Nat) : List Region → List Region
  | [] => []
  | [r] => [if r.same then r.firstLines n else r]
  | r :: s :: rs => r :: trimLast n (s :: rs)

abbrev Hunk := List Region

/-- Cut at stretches of more than `2 * n` equal lines; `open_` is the hunk so far, backwards. -/
def cutHunks (n : Nat) (open_ : Hunk) : List Region → List Hunk
  | [] => if open_.all (·.same) then [] else [open_.reverse]
  | r :: rs =>
    if r.same && 2 * n < r.oldLen then
      (r.firstLines n :: open_).reverse :: cutHunks n [r.lastLines n] rs
    else cutHunks n (r :: open_) rs

def hunks (n : Nat) (script : List Edit) : List Hunk :=
  cutHunks n [] (trimLast n (trimFirst n (regions script)))

inductive Row
  | kept (line : Text)
  | deleted (line : Text)
  | inserted (line : Text)
  deriving DecidableEq, Repr

def Region.rows (a b : List Text) (r : Region) : List Row :=
  if r.same then (slice a r.old r.oldLen).map .kept
  else (slice a r.old r.oldLen).map .deleted ++ (slice b r.new r.newLen).map .inserted

def Hunk.rows (a b : List Text) (h : Hunk) : List Row := h.flatMap (·.rows a b)

structure Extent where
  start : Nat
  stop : Nat
  deriving DecidableEq, Repr

def Hunk.oldExtent (h : Hunk) : Extent :=
  ⟨(h.head?.map (·.old)).getD 0, (h.getLast?.map fun r => r.old + r.oldLen).getD 0⟩

def Hunk.newExtent (h : Hunk) : Extent :=
  ⟨(h.head?.map (·.new)).getD 0, (h.getLast?.map fun r => r.new + r.newLen).getD 0⟩

end ScriptDesk.Diff
