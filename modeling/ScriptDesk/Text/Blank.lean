import ScriptDesk.Text.Basic

namespace ScriptDesk.Text

def isBlank (c : Char) : Bool :=
  let n := c.toNat
  (0x09 ≤ n && n ≤ 0x0D) || n == 0x20 || n == 0x85 || n == 0xA0 || n == 0x1680 ||
  (0x2000 ≤ n && n ≤ 0x200A) || n == 0x2028 || n == 0x2029 || n == 0x202F || n == 0x205F ||
  n == 0x3000

def isAsciiBlank (c : Char) : Bool :=
  let n := c.toNat
  (0x09 ≤ n && n ≤ 0x0D) || n == 0x20

theorem isBlank_of_isAsciiBlank (c : Char) (h : isAsciiBlank c = true) : isBlank c = true := by
  simp only [isAsciiBlank, isBlank, Bool.or_eq_true] at *
  grind

def trimStart (t : Text) : Text := t.dropWhile isBlank

def trimEnd (t : Text) : Text := (t.reverse.dropWhile isBlank).reverse

def trim (t : Text) : Text := trimEnd (trimStart t)

def words : Text → List Text
  | [] => []
  | [c] => if isBlank c then [] else [[c]]
  | c :: d :: t =>
    if isBlank c then words (d :: t)
    else if isBlank d then [c] :: words (d :: t)
    else match words (d :: t) with
      | [] => [[c]]
      | w :: ws => (c :: w) :: ws

def trimSemicolons (t : Text) : Text := (t.reverse.dropWhile (· == ';')).reverse

end ScriptDesk.Text
