import ScriptDesk.Highlight.Scope
import ScriptDesk.Theme

namespace ScriptDesk

structure Palette where
  keywords : Text
  functions : Text
  strings : Text
  comments : Text
  names : Text
  constants : Text
  gutter : Text
  warning : Text
  deriving DecidableEq, Repr

namespace Palette

def ofTheme : Theme → Palette
  | .light => {
      keywords := "38;2;0;0;255".toList
      functions := "38;2;121;94;38".toList
      strings := "38;2;163;21;21".toList
      comments := "38;2;0;128;0".toList
      names := "38;2;0;16;128".toList
      constants := "38;2;9;134;88".toList
      gutter := "38;2;100;100;100".toList
      warning := "38;2;139;128;0".toList }
  | .dark => {
      keywords := "38;2;86;156;214".toList
      functions := "38;2;220;220;170".toList
      strings := "38;2;206;145;120".toList
      comments := "38;2;106;153;85".toList
      names := "38;2;156;220;254".toList
      constants := "38;2;181;206;168".toList
      gutter := "38;2;150;150;150".toList
      warning := "38;2;255;250;205".toList }
  | .kali => {
      keywords := "38;2;38;139;210".toList
      functions := "38;2;0;255;255".toList
      strings := "38;2;133;153;0".toList
      comments := "38;2;88;110;117".toList
      names := "38;2;203;75;22".toList
      constants := "38;2;211;54;130".toList
      gutter := "38;2;88;110;117".toList
      warning := "38;2;255;85;85".toList }
  | .bashLight => {
      keywords := "34".toList
      functions := "36".toList
      strings := "32".toList
      comments := "90".toList
      names := "35".toList
      constants := "33".toList
      gutter := "90".toList
      warning := "31".toList }
  | .bashDark => {
      keywords := "94".toList
      functions := "96".toList
      strings := "92".toList
      comments := "37".toList
      names := "95".toList
      constants := "93".toList
      gutter := "37".toList
      warning := "91".toList }

def sequence (parameters : Text) : Text := "\x1b[".toList ++ parameters ++ ['m']

def reset : Text := sequence ['0']

def color? (p : Palette) : StyleClass → Option Text
  | .keyword => some (sequence p.keywords)
  | .function => some (sequence p.functions)
  | .string => some (sequence p.strings)
  | .comment => some (sequence p.comments)
  | .variable => some (sequence p.names)
  | .constant => some (sequence p.constants)
  | .plain => none

def paint (p : Palette) (c : StyleClass) (text : Text) : Text :=
  match p.color? c with
  | some code => if text.isEmpty then text else code ++ text ++ reset
  | none => text

def dim (p : Palette) (text : Text) : Text := sequence p.gutter ++ text ++ reset

def warn (p : Palette) (text : Text) : Text := sequence p.warning ++ text ++ reset

end Palette
end ScriptDesk
