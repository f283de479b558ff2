import ScriptDesk.Text.Offset

/-! Replacement in place.  The text that is searched is the one that is written to, and all that is
kept between two occurrences is a byte position. -/

namespace ScriptDesk.Text

def overwrite (t : Text) (i j : Nat) (new : Text) : Option Text :=
  match splitAtByte i t, splitAtByte j t with
  | some (before, _), some (_, after) => some (before ++ new ++ after)
  | _, _ => none

theorem byteSize_overwrite {t new t' : Text} {i j : Nat} (h : overwrite t i j new = some t') :
    byteSize t' + j = i + byteSize new + byteSize t := by
  unfold overwrite at h
  split at h
  · next before after' before' after left right =>
    cases h
    obtain ⟨rfl, rfl⟩ := of_splitAtByte left
    obtain ⟨whole, rfl⟩ := of_splitAtByte right
    rw [whole]
    simp only [byteSize_append]
    omega
  · cases h

theorem shorter_of_overwrite {t search new t' : Text} {pos n : Nat}
    (found : find t search pos = .at n)
    (overwritten : overwrite t n (n + byteSize search) new = some t') :
    byteSize t' - (n + byteSize new) < byteSize t - pos := by
  obtain ⟨searches, inside, onward⟩ := of_find_eq_at found
  have := byteSize_pos searches
  have := byteSize_overwrite overwritten
  omega

/-- Replace from byte `pos` on, `count` occurrences having been replaced before.  The search goes on
behind what was written.  None if a position ever lies inside a character. -/
def replaceOnward (search new t : Text) (pos count : Nat) : Option (Text × Nat) :=
  match found : find t search pos with
  | .absent => some (t, count)
  | .offBoundary => none
  | .at n =>
    match overwritten : overwrite t n (n + byteSize search) new with
    | none => none
    | some t' =>
      have := shorter_of_overwrite found overwritten
      replaceOnward search new t' (n + byteSize new) (count + 1)
termination_by byteSize t - pos

def replaceInPlace (t search new : Text) : Option (Text × Nat) :=
  if search.isEmpty then some (t, 0) else replaceOnward search new t 0 0

end ScriptDesk.Text
