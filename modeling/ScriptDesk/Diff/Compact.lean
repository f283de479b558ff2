import ScriptDesk.Diff.Script

/-! Compaction of edit scripts: edits of one kind move up and down past their neighbours and join
the edits of that kind they meet.  An insertion slides over kept lines while the line it leaves
equals the line it takes in. -/

namespace ScriptDesk.Diff

variable {α : Type}

/-- A script with one edit picked out; what stands before it is listed backwards. -/
structure Focus where
  before : List Edit
  edit : Edit
  after : List Edit
  deriving DecidableEq, Repr

def Focus.toList (f : Focus) : List Edit := f.before.reverse ++ f.edit :: f.after

def sameLine [BEq α] (a b : List α) (i j : Nat) : Bool :=
  match a[i]?, b[j]? with
  | some x, some y => x == y
  | _, _ => false

def keepBefore (old new : Nat) : List Edit → List Edit
  | e :: es =>
    if e.kind = .keep then { e with old := e.old - 1, new := e.new - 1, len := e.len + 1 } :: es
    else ⟨.keep, old, new, 1⟩ :: e :: es
  | [] => [⟨.keep, old, new, 1⟩]

def keepAfter (old new : Nat) : List Edit → List Edit
  | e :: es =>
    if e.kind = .keep then { e with len := e.len + 1 } :: es else ⟨.keep, old, new, 1⟩ :: e :: es
  | [] => [⟨.keep, old, new, 1⟩]

/-- Slide an insertion up over kept lines that start at `old`; `len` of them are still above it.
Gives how many are left, the insertion and what follows it. -/
def slideOverUp [BEq α] (a b : List α) (old : Nat) : Nat → Edit → List Edit → Nat × Edit × List Edit
  | 0, e, after => (0, e, after)
  | len + 1, e, after =>
    if e.kind = .insert ∧ sameLine a b (old + len) (e.new + e.len - 1) then
      slideOverUp a b old len { e with old := e.old - 1, new := e.new - 1 }
        (keepBefore (old + len) (e.new + e.len - 1) after)
    else (len + 1, e, after)

def slideOverDown [BEq α] (a b : List α) : Nat → Nat → Edit → List Edit → Nat × Edit × List Edit
  | _, 0, e, before => (0, e, before)
  | old, len + 1, e, before =>
    if e.kind = .insert ∧ sameLine a b old e.new then
      slideOverDown a b (old + 1) len { e with old := e.old + 1, new := e.new + 1 }
        (keepAfter old e.new before)
    else (len + 1, e, before)

def moveUp [BEq α] (a b : List α) : List Edit → Edit → List Edit → Focus
  | [], e, after => ⟨[], e, after⟩
  | q :: before, e, after =>
    if q.kind = .keep then
      match slideOverUp a b q.old q.len e after with
      | (0, e, after) => moveUp a b before e after
      | (left, e, after) => ⟨{ q with len := left } :: before, e, after⟩
    else if q.kind = e.kind then moveUp a b before { q with len := q.len + e.len } after
    else moveUp a b before e (q :: after)

def moveDown [BEq α] (a b : List α) (before : List Edit) (e : Edit) : List Edit → Focus
  | [] => ⟨before, e, []⟩
  | q :: after =>
    if q.kind = .keep then
      match slideOverDown a b q.old q.len e before with
      | (0, e, before) => moveDown a b before e after
      | (left, e, before) =>
        let gone := q.len - left
        ⟨before, e, ⟨.keep, q.old + gone, q.new + gone, left⟩ :: after⟩
    else if q.kind = e.kind then moveDown a b before { e with len := e.len + q.len } after
    else moveDown a b (q :: before) e after

/-- Move every edit of a kind up and then down, from the top.  Each step leaves fewer lines ahead,
so as many steps as there are lines are enough. -/
def settle [BEq α] (a b : List α) (kind : Kind) : Nat → List Edit → List Edit → List Edit
  | 0, before, after => before.reverse ++ after
  | _ + 1, before, [] => before.reverse
  | steps + 1, before, e :: after =>
    if e.kind = kind then
      let up := moveUp a b before e after
      let down := moveDown a b up.before up.edit up.after
      settle a b kind steps (down.edit :: down.before) down.after
    else settle a b kind steps (e :: before) after

def compact [BEq α] (a b : List α) (script : List Edit) : List Edit :=
  let steps := a.length + b.length
  settle a b .insert steps [] (settle a b .delete steps [] script)

end ScriptDesk.Diff
