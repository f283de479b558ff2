import ScriptDesk.Text.Blank

namespace ScriptDesk.Terminal

def known : List Text := [
  "x-terminal-emulator".toList, "xdg-terminal-exec".toList, "gnome-terminal".toList,
  "konsole".toList, "xfce4-terminal".toList, "kitty".toList, "alacritty".toList]

def candidates (preferred : Option Text) : List Text :=
  ((preferred.map Text.trim).filter fun t => !t.isEmpty).toList ++ known

def firstStarting [Monad m] (starts : Text → m Bool) : List Text → m (Option Text)
  | [] => return none
  | c :: cs => do if ← starts c then return some c else firstStarting starts cs

end ScriptDesk.Terminal
