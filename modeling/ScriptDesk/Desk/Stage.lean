import ScriptDesk.Conflict
import ScriptDesk.Disk
import ScriptDesk.Failure
import ScriptDesk.Session

/-! Acts in two stages.  An act runs up to its access to the disk, if it makes one, and lands once
the access is done; whatever happens between the two meets the state the first stage left. -/

namespace ScriptDesk

inductive SkipReason
  | noSession
  | conflictPending
  | saveInFlight
  | checkInFlight
  | shutDown
  deriving DecidableEq, Repr

inductive Verdict
  | skipped (reason : SkipReason)
  | unchanged
  | adopted (path : Text)
  | conflict (c : Conflict)
  | readFailed
  | discarded
  deriving DecidableEq, Repr

structure Ticket where
  path : Text
  generation : Nat
  revision : Nat
  deriving DecidableEq, Repr

inductive Outcome
  | nothing
  | done
  | session (s : Session)
  | formatted (changed : Bool)
  | verdict (v : Verdict)
  deriving DecidableEq, Repr

inductive Pending
  | opening (path : Text)
  | saving (path text : Text)
  | checking (ticket : Ticket)
  deriving DecidableEq, Repr

abbrev Pending.access : Pending → Access
  | .opening path => .read path
  | .saving path text => .write path text
  | .checking ticket => .read ticket.path

abbrev Result := Except Failure Outcome

inductive Stage
  | done (result : Result)
  | waits (pending : Pending)

end ScriptDesk
