import ScriptDesk.Host.Basic

namespace ScriptDesk

structure Disk where
  files : List (Text × Text)
  failReads : Bool
  failWrites : Bool
  writes : Nat
  deriving DecidableEq, Repr

namespace Disk

def ofFiles (files : List (Text × Text)) : Disk := ⟨files, false, false, 0⟩

def contents (d : Disk) (path : Text) : Option Text := d.files.lookup path

def delete (path : Text) (d : Disk) : Disk := { d with files := d.files.filter (·.1 != path) }

/-- A file put there from outside; it counts as no write. -/
def insert (path text : Text) (d : Disk) : Disk :=
  { d with files := (path, text) :: (d.delete path).files }

def read (d : Disk) (path : Text) : Except IoError Text :=
  if d.failReads then .error .readRefused
  else match d.contents path with
    | some text => .ok text
    | none => .error (.missing path)

def write (d : Disk) (path text : Text) : Except IoError Unit × Disk :=
  if d.failWrites then (.error .writeRefused, d)
  else (.ok (), { d.insert path text with writes := d.writes + 1 })

theorem lookup_filter_ne [BEq κ] [LawfulBEq κ] {path other : κ} (h : other ≠ path)
    (fs : List (κ × α)) : (fs.filter (·.1 != path)).lookup other = fs.lookup other := by
  induction fs with
  | nil => rfl
  | cons f fs ih =>
    obtain ⟨p, t⟩ := f
    by_cases hp : p = path
    · subst hp
      simp [List.lookup_cons, ih, beq_false_of_ne h]
    · simp [List.lookup_cons, ih, hp]

theorem contents_insert (d : Disk) (path text other : Text) :
    (d.insert path text).contents other = if other = path then some text else d.contents other := by
  by_cases h : other = path
  · simp [contents, insert, h]
  · simp [contents, insert, delete, h, List.lookup_cons, beq_false_of_ne h, lookup_filter_ne h]

theorem contents_of_read {d : Disk} {path text : Text} (h : d.read path = .ok text) :
    d.contents path = some text := by
  unfold read at h
  split at h
  · cases h
  · split at h
    · cases h
      assumption
    · cases h

theorem contents_write {d : Disk} {path text : Text} (h : (d.write path text).1 = .ok ()) :
    (d.write path text).2.contents path = some text := by
  unfold write at h ⊢
  split at h
  · cases h
  · next free =>
    rw [if_neg free]
    exact (d.contents_insert path text path).trans (if_pos rfl)

end Disk

inductive Access
  | read (path : Text)
  | write (path text : Text)
  deriving DecidableEq, Repr

abbrev Access.Result : Access → Type
  | .read _ => Except IoError Text
  | .write _ _ => Except IoError Unit

def Disk.access (d : Disk) : (a : Access) → a.Result × Disk
  | .read path => (d.read path, d)
  | .write path text => d.write path text

def Access.run {m : Type → Type} [Host m] : (a : Access) → m a.Result
  | .read path => Host.read path
  | .write path text => Host.write path text

end ScriptDesk
