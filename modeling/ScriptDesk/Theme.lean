import ScriptDesk.Text.Basic

namespace ScriptDesk

inductive Theme
  | light
  | dark
  | kali
  | bashLight
  | bashDark
  deriving DecidableEq, Repr

namespace Theme

def all : List Theme := [.light, .dark, .kali, .bashLight, .bashDark]

def name : Theme → Text
  | .light => "light".toList
  | .dark => "dark".toList
  | .kali => "kali".toList
  | .bashLight => "bash-light".toList
  | .bashDark => "bash-dark".toList

def ofName? (n : Text) : Option Theme := all.find? fun t => t.name == n

@[simp] theorem ofName?_name (t : Theme) : ofName? t.name = some t := by
  cases t <;> decide

end Theme
end ScriptDesk
