import ScriptDesk.Diff.Script

/-! Shortest edit scripts by divide and conquer.  Two searches, from the start and from the end,
widen one edit at a time; where they meet, the lists are split.

A search at width `d` reaches one point on each of the diagonals `d`, `d - 2`, …, `-d`, where the
diagonal of a point is its distance in the old list less that in the new.  Its frontier lists the
old distances in that order. -/

namespace ScriptDesk.Diff

variable {α : Type}

/-- Where a search of one more edit starts on each diagonal: one step down from the right or one
step along from the left, whichever reaches further. -/
def starts : List Nat → List Nat
  | [] => [0]
  | x :: xs => (x + 1) :: between x xs
where
  between (right : Nat) : List Nat → List Nat
    | [] => [right]
    | left :: xs => (if left < right then right else left + 1) :: between left xs

structure Trace where
  diagonal : Int
  start : Nat
  stop : Nat
  deriving DecidableEq, Repr

def Trace.startNew (t : Trace) : Nat := (t.start - t.diagonal).toNat

def Trace.stopNew (t : Trace) : Nat := (t.stop - t.diagonal).toNat

def traces (slide : Nat → Int → Nat) (width : Nat) (frontier : List Nat) : List Trace :=
  (starts frontier).mapIdx fun i x =>
    let k : Int := width - 2 * i
    ⟨k, x, x + slide x (x - k)⟩

def equalAhead [BEq α] (a b : Array α) (x y : Nat) : Nat :=
  if h : x < a.size ∧ y < b.size then
    if a[x] == b[y] then equalAhead a b (x + 1) (y + 1) + 1 else 0
  else 0
termination_by a.size - x

def slide [BEq α] (a b : Array α) (x : Nat) (y : Int) : Nat :=
  if 0 ≤ y then equalAhead a b x y.toNat else 0

def reached (width : Int) (frontier : Array Nat) (diagonal : Int) : Option Nat :=
  if diagonal.natAbs ≤ width then frontier[((width - diagonal) / 2).toNat]? else none

/-- Whether a trace meets the frontier of the other search, which counts from the far end. -/
def meets (n m : Nat) (width : Int) (frontier : Array Nat) (t : Trace) : Bool :=
  match reached width frontier ((n : Int) - m - t.diagonal) with
  | some x => n ≤ t.stop + x
  | none => false

def meeting (slideAhead slideBehind : Nat → Int → Nat) (n m : Nat) :
    Nat → Nat → List Nat → List Nat → Option (Nat × Nat)
  | 0, _, _, _ => none
  | rounds + 1, width, ahead, behind =>
    let odd := (n + m) % 2 == 1
    let met := behind.toArray
    let down := traces slideAhead width ahead
    match down.find? fun t => odd && meets n m (width - 1) met t with
    | some t => some (t.start, t.startNew)
    | none =>
      let ahead := down.map (·.stop)
      let met := ahead.toArray
      let up := traces slideBehind width behind
      match up.find? fun t => !odd && meets n m width met t with
      | some t => some (n - t.stop, m - t.stopNew)
      | none => meeting slideAhead slideBehind n m rounds (width + 1) ahead (up.map (·.stop))

def middle [BEq α] (a b : List α) : Option (Nat × Nat) :=
  let n := a.length
  let m := b.length
  meeting (slide a.toArray b.toArray) (slide a.reverse.toArray b.reverse.toArray) n m
    ((n + m + 1) / 2 + 1) 0 [] []

/-- The script between two lists that start at lines `old` and `new`.  Equal ends are kept; what
is left is split at most `depth` times, and replaced as a whole after that. -/
def script [BEq α] : Nat → List α → List α → Nat → Nat → List Edit
  | depth, a, b, old, new =>
    let p := commonPrefix a b
    let a' := a.drop p
    let b' := b.drop p
    let s := commonSuffix a' b'
    let a'' := a'.take (a'.length - s)
    let b'' := b'.take (b'.length - s)
    let i := old + p
    let j := new + p
    let n := a''.length
    let m := b''.length
    let inner :=
      if n = 0 ∨ m = 0 then run .delete i j n ++ run .insert i j m
      else match depth with
        | 0 => run .delete i j n ++ run .insert (i + n) j m
        | depth + 1 =>
          match middle a'' b'' with
          | none => run .delete i j n ++ run .insert (i + n) j m
          | some (x, y) =>
            script depth (a''.take x) (b''.take y) i j ++
              script depth (a''.drop x) (b''.drop y) (i + x) (j + y)
    run .keep old new p ++ inner ++ run .keep (i + n) (j + m) s

/-- Every split makes both parts smaller, so the lists' lengths bound the depth. -/
def shortest [BEq α] (a b : List α) : List Edit := script (a.length + b.length) a b 0 0

end ScriptDesk.Diff
