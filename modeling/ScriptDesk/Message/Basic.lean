import ScriptDesk.Text.Basic

namespace ScriptDesk

inductive Message
  | openFile (path : Text)
  | select (path : Text)
  | remove (path : Text)
  | listRecent
  | save
  | quit
  | append (line : Text)
  | setLine (n : Nat) (line : Text)
  | deleteLine (n : Nat)
  | replace (search new : Text)
  | format
  | print
  | highlight
  | status
  | setTheme (name : Text)
  | shell
  | tick
  | check
  | focusGained
  | focusLost
  | keepMine
  | reloadTheirs
  | help
  deriving DecidableEq, Repr

def Message.helpText : Text :=
  ":open PATH        open a script and make it current
:select PATH      switch to a known script
:remove PATH      forget a script (the file is kept)
:recent           list known scripts
:print            show the working copy with line numbers
:highlight        show the working copy with syntax colors
:append TEXT      add a line at the end
:set N TEXT       replace line N
:delete N         delete line N
:replace OLD NEW  replace every OLD with NEW
:format           re-indent the working copy
:save             write the working copy to disk
:check            compare with disk now
:focus / :blur    simulate the window gaining / losing focus
:keep             conflict: keep my edits
:reload           conflict: take the disk version
:theme NAME       switch color theme
:status           show the current file state
:shell            open a terminal in the script's directory
:quit             leave".toList

end ScriptDesk
