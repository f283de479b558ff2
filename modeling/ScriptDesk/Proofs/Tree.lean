import ScriptDesk.Disk
import ScriptDesk.Host.Tree
import Mathlib.Tactic.SplitIfs

namespace ScriptDesk.FileTree

theorem node?_put (t : FileTree) (name : Text) (outer : Location) (n : Node) (place : Location) :
    (t.put (name :: outer) n).node? place =
      if place = name :: outer then some n else t.node? place := by
  cases place with
  | nil => rfl
  | cons other place =>
    by_cases here : other :: place = name :: outer
    · simp [node?, put, here]
    · simp [node?, put, here, List.lookup_cons, beq_false_of_ne here,
        Disk.lookup_filter_ne here t.nodes]

theorem isSome_node?_put {t : FileTree} {place : Location} (h : (t.node? place).isSome = true)
    (name : Text) (outer : Location) (n : Node) :
    ((t.put (name :: outer) n).node? place).isSome = true := by
  rw [node?_put]
  split
  · rfl
  · exact h

section

variable {t : FileTree} {name : Text} {outer : Location}

theorem isDirectory_put (free : t.isDirectory (name :: outer) = false) (bytes : ByteArray)
    (place : Location) :
    (t.put (name :: outer) (.file bytes)).isDirectory place = t.isDirectory place := by
  unfold isDirectory at free ⊢
  rw [node?_put]
  split
  · next here =>
    rw [here, free]
    rfl
  · rfl

theorem walk_put (free : t.isDirectory (name :: outer) = false) (bytes : ByteArray)
    {at_ place : Location} {ps : List Text} (h : t.walk at_ ps = .ok place) :
    (t.put (name :: outer) (.file bytes)).walk at_ ps = .ok place := by
  induction ps generalizing at_ with
  | nil => exact h
  | cons part ps ih =>
    rw [walk] at h
    split_ifs at h with file idle up there
    · rw [walk, isDirectory_put free, if_neg file, if_pos idle]
      exact ih h
    · rw [walk, isDirectory_put free, if_neg file, if_neg idle, if_pos up]
      exact ih h
    · rw [walk, isDirectory_put free, if_neg file, if_neg idle, if_neg up,
        if_pos (isSome_node?_put there name outer (.file bytes))]
      exact ih h

end

theorem walk_append (t : FileTree) (at_ : Location) (ps qs : List Text) :
    t.walk at_ (ps ++ qs) = (t.walk at_ ps).bind (t.walk · qs) := by
  induction ps generalizing at_ with
  | nil => rfl
  | cons part ps ih =>
    rw [List.cons_append, walk, walk]
    split_ifs
    · rfl
    · exact ih at_
    · exact ih at_.tail
    · exact ih (part :: at_)
    · rfl

theorem withoutSlashes_eq_self {path : Text} (h : path.getLast? ≠ some '/') :
    withoutSlashes path = path := by
  rw [← List.head?_reverse] at h
  unfold withoutSlashes
  cases reversed : path.reverse with
  | nil => simpa using reversed
  | cons c r =>
    have other : c ≠ '/' := by simpa [reversed] using h
    rw [List.dropWhile_cons_of_neg (by simpa using other), ← reversed, List.reverse_reverse]

theorem lastStep_eq_some {path name : Text} {outer : List Text}
    (h : lastStep path = (outer, some name)) :
    parts path = outer ++ [name] ∧ Path.isIdle name = false ∧ name ≠ ['.', '.'] := by
  unfold lastStep at h
  split at h
  · cases h
  · next last inner reversed =>
    split_ifs at h with idle
    · cases congrArg Prod.snd h
    · rw [Prod.mk.injEq, Option.some.injEq] at h
      obtain ⟨rfl, rfl⟩ := h
      rw [not_or, Bool.not_eq_true] at idle
      exact ⟨by simpa using congrArg List.reverse reversed, idle⟩

structure LeadsTo (t : FileTree) (path name : Text) (dir : Location) : Prop where
  given : path.isEmpty = false
  named : Path.isIdle name = false ∧ name ≠ ['.', '.']
  directory : t.isDirectory dir = true
  walked : ∃ outer, parts path = outer ++ [name] ∧ t.walk (t.origin path) outer = .ok dir

theorem LeadsTo.locate {t : FileTree} {path name : Text} {dir : Location}
    (h : t.LeadsTo path name dir) (there : (t.node? (name :: dir)).isSome = true) :
    t.locate path = .ok (name :: dir) := by
  obtain ⟨outer, split, outside⟩ := h.walked
  have inside : t.walk dir [name] = .ok (name :: dir) := by
    simp [walk, h.directory, h.named, there]
  calc
    t.locate path = t.walk (t.origin path) (outer ++ [name]) := by
      rw [FileTree.locate, h.given, split]
      rfl
    _ = .ok (name :: dir) := by
      rw [walk_append, outside]
      exact inside

theorem LeadsTo.put {t : FileTree} {path name : Text} {dir : Location} (h : t.LeadsTo path name dir)
    (free : t.isDirectory (name :: dir) = false) (bytes : ByteArray) :
    (t.put (name :: dir) (.file bytes)).LeadsTo path name dir := by
  obtain ⟨outer, split, outside⟩ := h.walked
  exact ⟨h.given, h.named, (isDirectory_put free bytes dir).trans h.directory, outer, split,
    walk_put free bytes outside⟩

theorem write_eq_ok {t t' : FileTree} {path text : Text} (h : t.write path text = .ok t') :
    ∃ name dir, t.LeadsTo path name dir ∧ t.isDirectory (name :: dir) = false ∧
      t' = t.put (name :: dir) (.file (encode text)) := by
  unfold write at h
  simp only [bind, Except.bind, pure, Except.pure, throw, throwThe, MonadExceptOf.throw] at h
  split_ifs at h with nothing
  cases step : lastStep (withoutSlashes path) with
  | mk outer name? =>
    rw [step] at h
    cases walked : t.walk (t.origin path) outer with
    | error e => simp [walked] at h
    | ok dir =>
      cases name? with
      | none =>
        simp only [walked] at h
        split_ifs at h
      | some name =>
        simp only [walked] at h
        split_ifs at h with absent taken
        cases h
        rw [not_or, Bool.not_eq_true] at taken
        rw [withoutSlashes_eq_self taken.1] at step
        obtain ⟨split, named⟩ := lastStep_eq_some step
        have leads : t.LeadsTo path name dir :=
          ⟨by simpa using nothing, named, by simpa using absent, outer, split, walked⟩
        exact ⟨name, dir, leads, taken.2, rfl⟩

theorem decode_encode (text : Text) : Text.decode (encode text) = .ok text := by
  have whole : String.fromUTF8? (encode text) = some (String.ofList text) :=
    dif_pos (String.ofList text).isValidUTF8
  simp [Text.decode, whole]

theorem read_of_write {t t' : FileTree} {path text : Text} (h : t.write path text = .ok t') :
    t'.read path = .ok text := by
  obtain ⟨name, dir, leads, free, rfl⟩ := write_eq_ok h
  have there : (t.put (name :: dir) (.file (encode text))).node? (name :: dir) =
      some (.file (encode text)) := by
    rw [node?_put, if_pos rfl]
  have located := (leads.put free (encode text)).locate (by rw [there]; rfl)
  simp [read, located, there, decode_encode, bind, Except.bind]

theorem write_of_run {t t' : FileTree} {path text : Text}
    (h : (Host.write path text : StateM FileTree _).run t = (.ok (), t')) :
    t.write path text = .ok t' := by
  cases written : t.write path text with
  | error e =>
    have ran : (Host.write path text : StateM FileTree _).run t = (.error e, t) := by
      simp only [Host.write, StateT.run, written]
    cases congrArg Prod.fst (ran.symm.trans h)
  | ok t₁ =>
    have ran : (Host.write path text : StateM FileTree _).run t = (.ok (), t₁) := by
      simp only [Host.write, StateT.run, written]
    exact congrArg Except.ok (congrArg Prod.snd (ran.symm.trans h))

end ScriptDesk.FileTree
