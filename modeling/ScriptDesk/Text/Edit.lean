import ScriptDesk.Text.Basic

namespace ScriptDesk.Text

structure Around where
  before : Text
  line : Text
  after : Text
  deriving DecidableEq, Repr

def around : Nat → Text → Option Around
  | 0, _ => none
  | 1, t => some ⟨[], t.takeWhile (· != '\n'), t.dropWhile (· != '\n')⟩
  | _ + 2, [] => none
  | n + 2, c :: t =>
    (around (if c = '\n' then n + 1 else n + 2) t).map fun a => { a with before := c :: a.before }

theorem around_rebuilds (n : Nat) (t : Text) (a : Around) (h : around n t = some a) :
    a.before ++ a.line ++ a.after = t := by
  fun_induction around n t generalizing a with
  | case1 => simp at h
  | case2 t =>
    simp only [Option.some.injEq] at h
    subst h
    simp [List.takeWhile_append_dropWhile]
  | case3 => simp at h
  | case4 n c t ih =>
    obtain ⟨b, hb, rfl⟩ := Option.map_eq_some_iff.1 h
    simpa using ih b hb

def appendLine (t line : Text) : Text :=
  if t.isEmpty || t.endsLine then t ++ line else t ++ '\n' :: line

def replaceLine (t : Text) (n : Nat) (line : Text) : Option Text :=
  (around n t).map fun a => a.before ++ line ++ a.after

/-- The line goes with its newline; the last line takes the newline before it along. -/
def deleteLine (t : Text) (n : Nat) : Option Text :=
  (around n t).map fun a =>
    match a.after with
    | _ :: rest => a.before ++ rest
    | [] => a.before.dropLast

/-- Replace from the left; `skip` characters still belong to the last occurrence. -/
def replaceFrom (search new : Text) : Nat → Text → Text × Nat
  | _, [] => ([], 0)
  | skip + 1, _ :: t => replaceFrom search new skip t
  | 0, c :: t =>
    if search.isPrefixOf (c :: t) then
      let (r, k) := replaceFrom search new (search.length - 1) t
      (new ++ r, k + 1)
    else
      let (r, k) := replaceFrom search new 0 t
      (c :: r, k)

def replaceAll (t search new : Text) : Text × Nat :=
  if search.isEmpty then (t, 0) else replaceFrom search new 0 t

end ScriptDesk.Text
