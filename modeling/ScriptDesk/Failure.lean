import ScriptDesk.Host.Basic
import ScriptDesk.Text.Quoted
import ScriptDesk.Theme

namespace ScriptDesk

inductive CommandError
  | empty
  | unknown (word : Text)
  | missing (what : Text)
  | notALineNumber (arg : Text)
  | replaceUsage
  | noLine (n : Nat)
  | noTerminal
  deriving DecidableEq, Repr

def CommandError.message : CommandError → Text
  | .empty => "empty command".toList
  | .unknown word => "unknown command: ".toList ++ word ++ " (try :help)".toList
  | .missing what => "missing ".toList ++ what
  | .notALineNumber arg => "not a line number: ".toList ++ Text.quoted arg
  | .replaceUsage => "usage: :replace OLD NEW".toList
  | .noLine n => "no line ".toList ++ Text.ofNat n
  | .noTerminal =>
    "Could not find a terminal. Try setting the $TERMINAL environment variable.".toList

inductive Failure
  | io (cause : IoError)
  | busy (path : Text)
  | noActiveSession
  | unknownFile (path : Text)
  | noConflict
  | unknownTheme (name : Text)
  | command (cause : CommandError)
  deriving DecidableEq, Repr

def themeNames : Text := (List.intersperse ", ".toList (Theme.all.map Theme.name)).flatten

def Failure.message : Failure → Text
  | .io cause => "IO error: ".toList ++ cause.message
  | .busy path => "Save already in progress for ".toList ++ path
  | .noActiveSession => "No file is currently open".toList
  | .unknownFile path => "Unknown file: ".toList ++ path
  | .noConflict => "No pending conflict to resolve".toList
  | .unknownTheme name =>
    "Settings error: Invalid theme: ".toList ++ name ++ ". Available themes: ".toList ++ themeNames
  | .command cause => cause.message

end ScriptDesk
