import ScriptDesk.Entry

namespace ScriptDesk

structure Registry where
  /-- Oldest first. -/
  known : List Entry
  current : Option Text
  deriving DecidableEq, Repr

namespace Registry

def empty : Registry := ⟨[], none⟩

def contains (r : Registry) (path : Text) : Bool := r.known.any (·.path == path)

def add (r : Registry) (e : Entry) : Registry :=
  if r.contains e.path then r else { r with known := r.known ++ [e] }

/-- Of two entries for one path the older is kept. -/
def ofRecent (newestFirst : List Entry) : Registry := newestFirst.reverse.foldl add empty

def remove (r : Registry) (path : Text) : Registry where
  known := r.known.filter (·.path != path)
  current := if r.current = some path then none else r.current

def setCurrent (r : Registry) (path : Text) : Registry :=
  if r.contains path then { r with current := some path } else r

def entries (r : Registry) : List Entry := r.known.reverse

end Registry
end ScriptDesk
