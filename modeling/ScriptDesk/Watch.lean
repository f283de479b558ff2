import ScriptDesk.Workspace.Basic

/-! The watch over the disk.  One check at a time reads the current file; a change under unsaved
edits is kept as a conflict until it is resolved, and no check is made while it applies. -/

namespace ScriptDesk

structure Watch where
  conflict : Option Conflict
  reading : Bool
  shutDown : Bool
  deriving DecidableEq, Repr

namespace Watch

def idle : Watch := ⟨none, false, false⟩

def applies (c : Conflict) (w : Workspace) : Bool :=
  (w.session? c.path).any (·.id == c.session)

def claim (w : Workspace) (v : Watch) : Except SkipReason Ticket × Watch :=
  if v.shutDown then (.error .shutDown, v)
  else if v.conflict.any (applies · w) then (.error .conflictPending, v)
  else
    let v := { v with conflict := none }
    if v.reading then (.error .checkInFlight, v)
    else match w.currentSession? with
      | none => (.error .noSession, v)
      | some s =>
        if s.saving then (.error .saveInFlight, v)
        else (.ok ⟨s.path, w.generation, s.revision⟩, { v with reading := true })

def release (v : Watch) : Watch := { v with reading := false }

def judge (t : Ticket) (disk : Text) (w : Workspace) (v : Watch) : Verdict :=
  if v.shutDown || w.generation != t.generation then .discarded
  else match w.session? t.path with
    | none => .discarded
    | some s =>
      if s.revision != t.revision || s.saving then .discarded
      else if disk = s.baseline then .unchanged
      else if s.dirty then .conflict ⟨t.path, s.id, disk, s.revision⟩
      else .adopted t.path

def land (t : Ticket) (read : Except IoError Text) (w : Workspace) (v : Watch) :
    Verdict × Workspace × Watch :=
  let v := v.release
  match read with
  | .error _ => (.readFailed, w, v)
  | .ok disk =>
    match judge t disk w v with
    | .adopted path => (.adopted path, w.modify path (Session.reset disk), v)
    | .conflict c => (.conflict c, w, { v with conflict := some c })
    | verdict => (verdict, w, v)

def settle (r : Resolution) (disk : Text) : Session → Session :=
  match r with
  | .keepMine => Session.setBaseline disk
  | .reloadTheirs => Session.reset disk

def resolve (r : Resolution) (w : Workspace) (v : Watch) :
    Except Failure (Option Session) × Workspace × Watch :=
  match v.conflict with
  | none => (.error .noConflict, w, v)
  | some c =>
    let v := { v with conflict := none }
    match w.session? c.path with
    | none => (.ok none, w, v)
    | some s =>
      if s.id = c.session ∧ s.revision = c.revision then
        (.ok (some (settle r c.disk s)), w.modify c.path (settle r c.disk), v)
      else (.ok none, w, v)

end Watch

def regained (focused now : Bool) : Bool := now && !focused

end ScriptDesk
