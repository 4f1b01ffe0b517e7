/-
# Catalogs as sets of names

What a catalog answers depends on which names it holds and on nothing else: not on their
order, not on repetitions. A larger catalog knows more. The catalog of some titles holds
their qualified names and is the same in whatever order the titles come.
-/

import DekiMigration.Template

namespace DekiMigration

namespace Text

/-- Of two texts one precedes the other. -/
theorem precedes_total (first second : Text) :
    (precedes first second || precedes second first) = true := by
  rw [Bool.or_eq_true]
  induction first generalizing second with
  | nil => exact .inl rfl
  | cons c first ih =>
      cases second with
      | nil => exact .inr rfl
      | cons d second =>
          by_cases same : c = d
          · subst same
            simpa [precedes] using ih second
          · have apart : c.toNat ≠ d.toNat := fun equal => same (Char.toNat_inj.mp equal)
            simp only [precedes, if_neg same, if_neg (Ne.symm same), decide_eq_true_eq]
            omega

theorem precedes_trans {first second third : Text} (before : precedes first second = true)
    (behind : precedes second third = true) : precedes first third = true := by
  induction first generalizing second third with
  | nil => rfl
  | cons c first ih =>
      obtain _ | ⟨d, second⟩ := second
      · cases before
      obtain _ | ⟨e, third⟩ := third
      · cases behind
      rw [precedes] at before behind ⊢
      split at before <;> split at behind
      · next cd de => rw [if_pos (cd.trans de), ih before behind]
      · next cd other => rwa [if_neg (cd ▸ other), cd]
      · next other de => rwa [if_neg (de ▸ other), ← de]
      · have less : c.toNat < e.toNat :=
          Nat.lt_trans (of_decide_eq_true before) (of_decide_eq_true behind)
        rw [if_neg fun same => Nat.lt_irrefl _ (same ▸ less), decide_eq_true less]

theorem precedes_antisymm {first second : Text} (before : precedes first second = true)
    (behind : precedes second first = true) : first = second := by
  induction first generalizing second with
  | nil =>
      cases second with
      | nil => rfl
      | cons d second => cases behind
  | cons c first ih =>
      obtain _ | ⟨d, second⟩ := second
      · cases before
      rw [precedes] at before behind
      by_cases same : c = d
      · subst same
        rw [if_pos rfl] at before behind
        rw [ih before behind]
      · rw [if_neg same, decide_eq_true_eq] at before
        rw [if_neg (Ne.symm same), decide_eq_true_eq] at behind
        exact absurd behind (Nat.lt_asymm before)

/-- The order in which texts are given does not matter when they are sorted. -/
theorem sort_eq_of_perm {first second : List Text} (perm : first.Perm second) :
    sort first = sort second := by
  have sorted : ∀ texts : List Text, (sort texts).Pairwise (precedes · · = true) :=
    List.pairwise_mergeSort (fun _ _ _ => precedes_trans) precedes_total
  have together : (sort first).Perm (sort second) :=
    (List.mergeSort_perm first precedes).trans
      (perm.trans (List.mergeSort_perm second precedes).symm)
  apply together.eq_of_pairwise ?_ (sorted first) (sorted second)
  exact fun _ _ _ _ => precedes_antisymm

end Text

namespace Template

open Text

private theorem mem_dropRepeats_go {name last : Text} {kept names : List Text} :
    name ∈ dropRepeats.go kept last names ↔ name ∈ kept ∨ name ∈ last :: names := by
  induction names generalizing kept last with
  | nil => simp [dropRepeats.go, or_comm]
  | cons first names ih =>
      rw [dropRepeats.go]
      split
      · next same => simp [ih, same]
      · simp [ih, or_assoc, or_left_comm]

/-- Only repetitions are dropped. -/
theorem mem_dropRepeats {name : Text} {names : List Text} :
    name ∈ dropRepeats names ↔ name ∈ names := by
  cases names with
  | nil => rfl
  | cons first names => simp [dropRepeats, mem_dropRepeats_go]

namespace Catalog

/-- A catalog of names holds these names. -/
theorem mem_ofNames {name : Text} {names : List Text} :
    name ∈ (ofNames names).names ↔ name ∈ names := by
  rw [ofNames, mem_dropRepeats, sort, List.mem_mergeSort]

/-- A catalog of titles holds their names with the qualifier in front. -/
theorem mem_ofTitles {name : Text} {titles : List Text} :
    name ∈ (ofTitles titles).names ↔ ∃ title ∈ titles, qualifier ++ normalizeName title = name := by
  rw [ofTitles, mem_ofNames, List.mem_map]

/-- The order of the titles does not matter. -/
theorem ofTitles_eq_of_perm {first second : List Text} (perm : first.Perm second) :
    ofTitles first = ofTitles second := by
  rw [ofTitles, ofTitles, ofNames, ofNames, sort_eq_of_perm (perm.map _)]

/-- A name is known when the catalog holds it, or holds it without its qualifier. -/
theorem knows_iff {catalog : Catalog} {name : Text} :
    catalog.knows name = true ↔
      name ∈ catalog.names ∨
        isQualified name = true ∧ name.drop qualifier.length ∈ catalog.names := by
  simp [knows, contains]

/-- A catalog with more names knows more. -/
theorem knows_of_subset {few many : Catalog} (more : few.names ⊆ many.names) {name : Text}
    (known : few.knows name = true) : many.knows name = true := by
  rw [knows_iff] at known ⊢
  exact known.imp (fun listed => more listed) fun qualified => ⟨qualified.1, more qualified.2⟩

/-- Catalogs with the same names know the same. -/
theorem knows_eq_of_subset {first second : Catalog} (subset : first.names ⊆ second.names)
    (superset : second.names ⊆ first.names) (name : Text) :
    first.knows name = second.knows name :=
  Bool.eq_iff_iff.mpr ⟨knows_of_subset subset, knows_of_subset superset⟩

theorem knows_empty (name : Text) : Catalog.empty.knows name = false := by
  simp [knows, contains, empty]

end Catalog

end Template

end DekiMigration
