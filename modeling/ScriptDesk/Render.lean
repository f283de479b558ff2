import ScriptDesk.Conflict
import ScriptDesk.Highlight.Span
import ScriptDesk.Palette
import ScriptDesk.Registry
import ScriptDesk.Session

namespace ScriptDesk.Render

def title (s : Session) : Text :=
  if s.dirty then s.displayName ++ " [+]".toList else s.displayName

def gutterWidth (text : Text) : Nat := (Text.ofNat (Text.lineCount text)).length

def headline (s : Session) : Text := "-- ".toList ++ title s ++ " --\n".toList

def gutter (p : Palette) (width n : Nat) : Text := p.dim (Text.padLeft width (Text.ofNat n) ++ [' '])

def numbered (p : Palette) (width : Nat) : Nat → List Text → Text
  | _, [] => []
  | n, row :: rows => gutter p width n ++ row ++ '\n' :: numbered p width (n + 1) rows

def listing (s : Session) (p : Palette) : Text :=
  headline s ++ numbered p (gutterWidth s.working) 1 (Text.rows s.working)

def painted (p : Palette) (spans : List Span) : Text := spans.flatMap fun s => p.paint s.style s.text

def highlighted (s : Session) (lines : List (List Span)) (p : Palette) : Text :=
  headline s ++ numbered p (gutterWidth s.working) 1 (lines.map (painted p))

def recentRow (current : Option Text) (e : Entry) : Text :=
  (if current = some e.path then '*' else ' ') :: ' ' :: Text.padRight 20 e.displayName ++
    ' ' :: e.path

def recentList (entries : List Entry) (current : Option Text) : Text :=
  if entries.isEmpty then "No recent files".toList
  else Text.joined (entries.map (recentRow current))

def status (session : Option Session) (conflict : Option Conflict) : Text :=
  match session with
  | none => "No file open".toList
  | some s =>
    s.path ++ ": ".toList ++ Text.ofNat (Text.lineCount s.working) ++ " lines, ".toList ++
      (if s.dirty then "modified".toList else "saved".toList) ++
      (if s.saving then ", saving".toList else []) ++
      match conflict with
      | none => []
      | some c => "\nconflict pending on ".toList ++ c.path ++ " (:keep or :reload)".toList

def conflictNotice (c : Conflict) (working : Text) (p : Palette) : Text :=
  p.warn (c.path ++ (" changed on disk and you have unsaved edits. " ++
    ":keep keeps yours, :reload takes the disk version.").toList) ++ '\n' :: c.diff working

end ScriptDesk.Render
