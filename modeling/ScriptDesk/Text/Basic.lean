namespace ScriptDesk

/-- A document, a path or a message: the characters it is made of. -/
abbrev Text := List Char

namespace Text

def splitOn (sep : Char) : Text → List Text
  | [] => [[]]
  | c :: t =>
    if c = sep then [] :: splitOn sep t
    else match splitOn sep t with
      | [] => [[c]]
      | p :: ps => (c :: p) :: ps

def joinWith (sep : Char) : List Text → Text
  | [] => []
  | [p] => p
  | p :: q :: ps => p ++ sep :: joinWith sep (q :: ps)

theorem splitOn_ne_nil (sep : Char) (t : Text) : splitOn sep t ≠ [] := by
  cases t with
  | nil => simp [splitOn]
  | cons c t =>
    simp only [splitOn]
    split
    · simp
    · split <;> simp

theorem joinWith_nil_cons (sep : Char) {ps : List Text} (h : ps ≠ []) :
    joinWith sep ([] :: ps) = sep :: joinWith sep ps := by
  cases ps with
  | nil => exact absurd rfl h
  | cons p ps => simp [joinWith]

theorem joinWith_cons_cons (sep c : Char) (p : Text) (ps : List Text) :
    joinWith sep ((c :: p) :: ps) = c :: joinWith sep (p :: ps) := by
  cases ps <;> simp [joinWith]

@[simp] theorem joinWith_splitOn (sep : Char) (t : Text) : joinWith sep (splitOn sep t) = t := by
  induction t with
  | nil => rfl
  | cons c t ih =>
    simp only [splitOn]
    split
    · rename_i h
      rw [joinWith_nil_cons sep (splitOn_ne_nil sep t), ih, h]
    · split
      · rename_i h
        exact absurd h (splitOn_ne_nil sep t)
      · rename_i h
        rw [joinWith_cons_cons, ← h, ih]

theorem length_splitOn (sep : Char) (t : Text) : (splitOn sep t).length = t.count sep + 1 := by
  induction t with
  | nil => rfl
  | cons c t ih =>
    simp only [splitOn]
    split
    · rename_i h
      simp [h, ih]
    · rename_i h
      split
      · rename_i hp
        exact absurd hp (splitOn_ne_nil sep t)
      · rename_i hp
        rw [hp] at ih
        simpa [h] using ih

def pieces (t : Text) : List Text := splitOn '\n' t

def joined (ps : List Text) : Text := joinWith '\n' ps

@[simp] theorem joined_pieces (t : Text) : joined (pieces t) = t := joinWith_splitOn '\n' t

def lines : Text → List Text
  | [] => []
  | c :: t =>
    if c = '\n' then [c] :: lines t
    else match lines t with
      | [] => [[c]]
      | l :: ls => (c :: l) :: ls

@[simp] theorem flatten_lines (t : Text) : (lines t).flatten = t := by
  induction t with
  | nil => rfl
  | cons c t ih =>
    simp only [lines]
    split
    · simp [ih]
    · split
      · rename_i h
        rw [h] at ih
        simp [← ih]
      · rename_i h
        rw [h] at ih
        simp [← ih]

/-- A line without its newline and without a carriage return right before that newline. -/
def bare (line : Text) : Text :=
  match line.reverse with
  | '\n' :: '\r' :: r => r.reverse
  | '\n' :: r => r.reverse
  | r => r.reverse

def rows (t : Text) : List Text := (lines t).map bare

/-- Lines as an editor counts them: a final newline opens one more. -/
def lineCount (t : Text) : Nat := t.count '\n' + 1

def endsLine (t : Text) : Bool := t.getLast? == some '\n'

theorem length_pieces (t : Text) : (pieces t).length = lineCount t := length_splitOn '\n' t

def trimNewlines (t : Text) : Text := (t.reverse.dropWhile (· == '\n')).reverse

def splitSpace : Text → Option (Text × Text)
  | [] => none
  | c :: t => if c = ' ' then some ([], t) else (splitSpace t).map fun (a, b) => (c :: a, b)

def spaces (n : Nat) : Text := List.replicate n ' '

def padRight (n : Nat) (t : Text) : Text := t ++ spaces (n - t.length)

def padLeft (n : Nat) (t : Text) : Text := spaces (n - t.length) ++ t

def ofNat (n : Nat) : Text := Nat.toDigits 10 n

end Text
end ScriptDesk
