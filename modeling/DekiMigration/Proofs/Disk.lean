/-
# What the disk holds

Putting an entry on the disk changes what is found at its own place and nowhere else.
Writing a file puts it there, unless it is refused, and making directories ends at the
place to which their names lead.
-/

import DekiMigration.Disk

namespace DekiMigration.Disk

open Text

theorem find?_eq_lookup {place : Place} (below : place ≠ []) (disk : Disk) :
    disk.find? place = disk.entries.lookup place := by
  cases place with
  | nil => exact absurd rfl below
  | cons name place => rfl

theorem lookup_filter_ne {place other : Place} (elsewhere : other ≠ place)
    (entries : List (Place × Entry)) :
    (entries.filter (·.1 != place)).lookup other = entries.lookup other := by
  induction entries with
  | nil => rfl
  | cons entry entries ih =>
      obtain ⟨here, contents⟩ := entry
      by_cases same : here = place
      · rw [List.filter_cons_of_neg (by simp [same]), ih, List.lookup_cons, same,
          beq_eq_false_iff_ne.mpr elsewhere]
      · rw [List.filter_cons_of_pos (by simp [same]), List.lookup_cons, List.lookup_cons, ih]

theorem lookup_filter_self (place : Place) (entries : List (Place × Entry)) :
    (entries.filter (·.1 != place)).lookup place = none := by
  rw [List.lookup_eq_none_iff]
  intro entry inside
  have other := (List.mem_filter.mp inside).2
  exact bne_iff_ne.mpr (bne_iff_ne.mp other).symm

/-- What is put at a place is found there. -/
theorem find?_put_self {place : Place} (below : place ≠ []) (disk : Disk) (entry : Entry) :
    (disk.put place entry).find? place = some entry := by
  rw [find?_eq_lookup below, put, List.lookup_append, lookup_filter_self]
  simp

/-- Elsewhere the disk stays as it was. -/
theorem find?_put_of_ne {place other : Place} (elsewhere : other ≠ place) (disk : Disk)
    (entry : Entry) : (disk.put place entry).find? other = disk.find? other := by
  by_cases root : other = []
  · rw [root]
    rfl
  · rw [find?_eq_lookup root, find?_eq_lookup root, put, List.lookup_append,
      lookup_filter_ne elsewhere, List.lookup_cons, beq_eq_false_iff_ne.mpr elsewhere]
    exact Option.or_none

/-- A file that is written is put into its directory as a whole. -/
theorem write_eq_ok {disk written : Disk} {directory : Place} {name contents : Text}
    (accepted : disk.write directory name contents = .ok written) :
    written = disk.put (directory ++ [name]) (.file contents) := by
  rw [write] at accepted
  split at accepted
  · cases accepted
  · split at accepted
    · cases accepted
    · cases accepted
      rfl

theorem find?_write_self {disk written : Disk} {directory : Place} {name contents : Text}
    (accepted : disk.write directory name contents = .ok written) :
    written.find? (directory ++ [name]) = some (.file contents) := by
  rw [write_eq_ok accepted]
  exact find?_put_self (by simp) disk (.file contents)

theorem find?_write_of_ne {disk written : Disk} {directory : Place} {name other contents : Text}
    (accepted : disk.write directory name contents = .ok written) (elsewhere : other ≠ name) :
    written.find? (directory ++ [other]) = disk.find? (directory ++ [other]) := by
  rw [write_eq_ok accepted]
  exact find?_put_of_ne (by simpa using elsewhere) disk (.file contents)

/-- Directories are made where their names lead. -/
theorem makeDirectories_place {names : List Text} {disk made : Disk} {place reached : Place}
    {missing : Bool}
    (accepted : disk.makeDirectories place names missing = .ok (made, reached)) :
    reached = Path.follow place names := by
  induction names generalizing disk place missing with
  | nil =>
      cases accepted
      rfl
  | cons name names ih =>
      rw [makeDirectories] at accepted
      show reached =
        Path.follow (if name = Path.above then place.dropLast else place ++ [name]) names
      by_cases back : name = Path.above
      · rw [if_pos back] at accepted ⊢
        exact ih accepted
      · rw [if_neg back] at accepted ⊢
        split at accepted
        · cases accepted
        · dsimp only at accepted
          split at accepted
          · exact ih accepted
          · cases accepted
          · exact ih accepted

end DekiMigration.Disk
