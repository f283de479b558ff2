import ScriptDesk.Text.Basic

namespace ScriptDesk.Diff

inductive Kind
  | keep
  | delete
  | insert
  deriving DecidableEq, Repr

structure Edit where
  kind : Kind
  old : Nat
  new : Nat
  len : Nat
  deriving DecidableEq, Repr

variable {α : Type}

def slice (xs : List α) (start len : Nat) : List α := (xs.drop start).take len

def commonPrefix [BEq α] : List α → List α → Nat
  | x :: xs, y :: ys => if x == y then commonPrefix xs ys + 1 else 0
  | _, _ => 0

def commonSuffix [BEq α] (xs ys : List α) : Nat := commonPrefix xs.reverse ys.reverse

def run (kind : Kind) (old new len : Nat) : List Edit :=
  if len = 0 then [] else [⟨kind, old, new, len⟩]

end ScriptDesk.Diff
