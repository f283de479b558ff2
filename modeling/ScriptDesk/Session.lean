import ScriptDesk.Path

/-! Open scripts.  The baseline is the text last known to be on disk, the working text is the one
being edited, and the revision counts how often the baseline was replaced. -/

namespace ScriptDesk

/-- An id is new for every load.  Ids and revisions stand for 64-bit counters that do not run over:
runs are meant to load fewer than 2 ^ 64 sessions and to replace fewer than 2 ^ 64 baselines. -/
structure Session where
  id : Nat
  path : Text
  baseline : Text
  working : Text
  saving : Bool
  revision : Nat
  deriving DecidableEq, Repr

namespace Session

def loaded (id : Nat) (path content : Text) : Session := ⟨id, path, content, content, false, 0⟩

def displayName (s : Session) : Text := Path.displayName s.path

def dirty (s : Session) : Bool := s.working != s.baseline

def held (s : Session) : Bool := s.dirty || s.saving

def edit (text : Text) (s : Session) : Session := { s with working := text }

def setBaseline (text : Text) (s : Session) : Session :=
  { s with baseline := text, revision := s.revision + 1 }

def reset (text : Text) (s : Session) : Session := setBaseline text (edit text s)

def beginSave? (s : Session) : Option Session :=
  if s.saving then none else some { s with saving := true }

/-- The written text becomes the baseline; without one the save failed. -/
def finishSave (written : Option Text) (s : Session) : Session :=
  let s := { s with saving := false }
  match written with
  | some text => s.setBaseline text
  | none => s

end Session

/-- The open scripts, at most one for each path.  They make up a map from paths with its keys left
out: a script is stored under the path it was loaded from, and a change to a stored script keeps
its path (`Sessions.get?_modify` asks for that), so the key would be the script's own path. -/
abbrev Sessions := List Session

namespace Sessions

def get? (ss : Sessions) (path : Text) : Option Session := ss.find? (·.path == path)

def modify (path : Text) (f : Session → Session) (ss : Sessions) : Sessions :=
  ss.map fun s => if s.path = path then f s else s

def erase (path : Text) (ss : Sessions) : Sessions := ss.filter (·.path != path)

def insert (s : Session) (ss : Sessions) : Sessions := s :: erase s.path ss

@[simp] theorem get?_nil (path : Text) : get? [] path = none := rfl

@[simp] theorem get?_cons (s : Session) (ss : Sessions) (path : Text) :
    get? (s :: ss) path = if s.path = path then some s else get? ss path := by
  by_cases h : s.path = path <;> simp [get?, h]

theorem path_of_get? {ss : Sessions} {path : Text} {s : Session} (h : ss.get? path = some s) :
    s.path = path := by
  simpa using List.find?_some h

theorem get?_erase (ss : Sessions) (path other : Text) :
    (ss.erase path).get? other = if other = path then none else ss.get? other := by
  induction ss with
  | nil => simp [erase]
  | cons s ss ih =>
    by_cases h : s.path = path
    · have hs : erase path (s :: ss) = erase path ss := by simp [erase, h]
      rw [hs, ih, get?_cons]
      grind
    · have hs : erase path (s :: ss) = s :: erase path ss := by simp [erase, h]
      rw [hs, get?_cons, get?_cons, ih]
      grind

theorem get?_insert (s : Session) (ss : Sessions) (path : Text) :
    (ss.insert s).get? path = if s.path = path then some s else ss.get? path := by
  simp only [insert, get?_cons, get?_erase]
  grind

theorem get?_modify (ss : Sessions) (path other : Text) (f : Session → Session)
    (h : ∀ s, s.path = path → (f s).path = path) :
    (ss.modify path f).get? other =
      if other = path then (ss.get? other).map f else ss.get? other := by
  induction ss with
  | nil => simp [modify]
  | cons s ss ih =>
    simp only [modify, List.map_cons, get?_cons] at *
    grind

end Sessions
end ScriptDesk
