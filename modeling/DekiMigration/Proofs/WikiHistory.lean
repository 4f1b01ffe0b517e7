/-
# Changes to the wiki

A wiki comes about by changes: records are put in their places, records are deleted, and
pages come into categories. A change that is refused leaves the wiki as it is. What is found
under a number in the end was left there by the last change that concerns it.
-/

import DekiMigration.Proofs.PageRequests

namespace DekiMigration.Wiki

open Text

/-- A change to the wiki. -/
inductive Change where
  /-- A new record, or one that replaces the record under its number. -/
  | put (record : Record)
  | delete (id : Int)
  | enroll (id : Int) (category : Text)
  deriving DecidableEq, Repr

namespace Change

/-- The wiki with a change. -/
def apply (store : Store) : Change → Except Refusal Store
  | put record => store.put record
  | delete id => store.delete id
  | enroll id category => store.enroll id category

/-- What a change leaves under a number, when it concerns the number and is not refused. -/
def effect? (id : Int) : Change → Option (Option Record)
  | put record =>
    if record.id = id ∧ record.isStorable ∧ record.isComplete then some (some record) else none
  | delete other => if other = id ∧ isStorable other then some none else none
  | enroll .. => none

end Change

namespace Store

/-- The wiki with a change, or as it is when the change is refused. -/
def changed (store : Store) (change : Change) : Store :=
  (change.apply store).toOption.getD store

/-- A wiki without pages. -/
def empty : Store where
  records := []
  memberships := []
  sorted := .nil
  kept := fun _ listed => absurd listed List.not_mem_nil
  distinct := List.Pairwise.nil

/-- The wiki that comes about by changes to one without pages, one after the other. -/
def after (changes : List Change) : Store :=
  changes.foldl changed empty

/-- What the last change that concerns a number has left under it. -/
def latest? (changes : List Change) (id : Int) : Option Record :=
  (changes.reverse.findSome? (Change.effect? id)).join

/-- Nothing is found under a number that no record has. -/
theorem record?_eq_none_iff {store : Store} {id : Int} :
    store.record? id = none ↔ ∀ record ∈ store.records, record.id ≠ id := by
  rw [record?, List.find?_eq_none]
  simp only [decide_eq_true_eq, ne_eq]

/-- A record that is put in its place is found there, and the others are found as before. -/
theorem find?_place (record : Record) (records : List Record) (id : Int) :
    (place record records).find? (·.id = id) =
      if record.id = id then some record else records.find? (·.id = id) := by
  induction records with
  | nil => simp [place]
  | cons first later ih =>
      rw [place]
      by_cases same : record.id = id
      · rw [if_pos same] at ih ⊢
        split
        · simp [same]
        · split
          · simp [same]
          · next different =>
              rw [List.find?_cons_of_neg (by simpa [← same] using Ne.symm different), ih]
      · rw [if_neg same] at ih ⊢
        split
        · simp [same]
        · split
          · next replaced =>
              rw [List.find?_cons_of_neg (by simpa using same),
                List.find?_cons_of_neg (by simpa [← replaced] using same)]
          · rw [List.find?_cons, List.find?_cons, ih]

theorem record?_put (store : Store) (record : Record) (id : Int) :
    (store.changed (.put record)).record? id =
      ((Change.put record).effect? id).getD (store.record? id) := by
  rw [changed, Change.apply, put, Change.effect?]
  by_cases storable : record.isStorable
  · by_cases complete : record.isComplete
    · rw [dif_pos storable, dif_pos complete]
      simp only [storable, complete, and_true]
      show (place record store.records).find? (·.id = id) = _
      rw [find?_place]
      split <;> rfl
    · rw [dif_pos storable, dif_neg complete, if_neg fun holds => complete holds.2.2]
      rfl
  · rw [dif_neg storable, if_neg fun holds => storable holds.2.1]
    rfl

theorem record?_delete (store : Store) (other id : Int) :
    (store.changed (.delete other)).record? id =
      ((Change.delete other).effect? id).getD (store.record? id) := by
  rw [changed, Change.apply, delete, Change.effect?]
  by_cases storable : isStorable other
  · rw [if_pos storable]
    simp only [storable, and_true]
    show (store.records.filter (·.id != other)).find? (·.id = id) = _
    rw [List.find?_filter]
    by_cases same : other = id
    · rw [if_pos same, Option.getD_some, List.find?_eq_none]
      simp [same]
    · rw [if_neg same, Option.getD_none, record?]
      congr 1
      funext record
      by_cases found : record.id = id
      · simp [found, Ne.symm same]
      · simp [found]
  · rw [if_neg storable, if_neg fun holds => storable holds.2]
    rfl

theorem record?_enroll (store : Store) (other id : Int) (category : Text) :
    (store.changed (.enroll other category)).record? id = store.record? id := by
  rw [changed, Change.apply, enroll]
  split
  · rfl
  · split <;> rfl

/-- A change leaves under a number what it says, and nothing else changes. -/
theorem record?_changed (store : Store) (change : Change) (id : Int) :
    (store.changed change).record? id = (change.effect? id).getD (store.record? id) := by
  cases change with
  | put record => exact store.record?_put record id
  | delete other => exact store.record?_delete other id
  | enroll other category => exact store.record?_enroll other id category

/-- Under a number there is what the last change that concerns it has left. -/
theorem record?_after (changes : List Change) (id : Int) :
    (after changes).record? id = latest? changes id := by
  induction changes using List.reverseRecOn with
  | nil => rfl
  | append_singleton changes change ih =>
      rw [after, List.foldl_append, List.foldl_cons, List.foldl_nil, ← after, record?_changed, ih,
        latest?, latest?, List.reverse_append, List.reverse_singleton, List.singleton_append,
        List.findSome?_cons]
      cases change.effect? id <;> rfl

/-- The records of the wiki are those that are found under their numbers. -/
theorem mem_records_iff {store : Store} {record : Record} :
    record ∈ store.records ↔ store.record? record.id = some record :=
  ⟨record?_of_mem, List.mem_of_find?_eq_some⟩

theorem mem_records_after {changes : List Change} {record : Record} :
    record ∈ (after changes).records ↔ latest? changes record.id = some record := by
  rw [mem_records_iff, record?_after]

end Store

end DekiMigration.Wiki
