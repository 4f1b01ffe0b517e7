/-
# Paging

A client who wants all pages asks for one window after the other, each beginning where the
last one would have ended if it was full, and stops at the first that is empty. What is left
out is left out before the windows are cut, so nothing is lost between two windows and
nothing comes twice: together they show the pages that match, in the order of their numbers,
and none but the last that shows anything is short.
-/

import DekiMigration.Proofs.WikiHistory

namespace DekiMigration.Service

open Text

/-- What a client gets to see who goes on from a window until one is empty. -/
inductive Walk (ask : Nat → Response) : Nat → List (List Json.Value) → Prop where
  | stop {index : Nat} (empty : (ask index).Gives (.list [])) : Walk ask index []
  | next {index : Nat} {entries : List Json.Value} {later : List (List Json.Value)}
      (gives : (ask index).Gives (.list entries)) (nonempty : entries ≠ [])
      (walk : Walk ask (index + 1) later) : Walk ask index (entries :: later)

theorem Walk.flatten_ne_nil {ask : Nat → Response} {index : Nat} {entries : List Json.Value}
    {later : List (List Json.Value)} (walk : Walk ask index (entries :: later)) :
    (entries :: later).flatten ≠ [] := by
  cases walk with
  | next gives nonempty walk =>
      rw [List.flatten_cons]
      exact List.append_ne_nil_of_left_ne_nil nonempty _

/-- Windows of one size that are cut from a list one after the other show what is left of it,
and only the last of them may be short. -/
theorem exists_walk {ask : Nat → Response} {pages : List MigratedPage} {limit : Nat}
    (positive : 1 ≤ limit)
    (given : ∀ index, index * limit < pages.length + limit →
      ∃ entries, (ask index).Gives (.list entries) ∧
        List.Forall₂ Outlines entries ((pages.drop (index * limit)).take limit))
    (index : Nat) (within : index * limit < pages.length + limit) :
    ∃ windows, Walk ask index windows ∧
      List.Forall₂ Outlines windows.flatten (pages.drop (index * limit)) ∧
      ∀ window ∈ windows.dropLast, window.length = limit := by
  induction left : pages.length - index * limit using Nat.strong_induction_on
      generalizing index with
  | _ left ih =>
      obtain ⟨entries, gives, outlined⟩ := given index within
      by_cases past : pages.length ≤ index * limit
      · have empty : pages.drop (index * limit) = [] := List.drop_eq_nil_iff.mpr past
        rw [empty, List.take_nil, List.forall₂_nil_right_iff] at outlined
        subst outlined
        refine ⟨[], .stop gives, ?_, by simp⟩
        rw [empty]
        exact .nil
      · have next : (index + 1) * limit = index * limit + limit := Nat.succ_mul index limit
        obtain ⟨later, walk, outlined', full⟩ :=
          ih (pages.length - (index + 1) * limit) (by omega) (index + 1) (by omega) rfl
        rw [next, ← List.drop_drop] at outlined'
        have length_eq := outlined.length_eq
        rw [List.length_take, List.length_drop] at length_eq
        have nonempty : entries ≠ [] := List.ne_nil_of_length_pos (by omega)
        refine ⟨entries :: later, .next gives nonempty walk, ?_, ?_⟩
        · have whole : List.Forall₂ Outlines (entries ++ later.flatten)
              ((pages.drop (index * limit)).take limit ++
                (pages.drop (index * limit)).drop limit) :=
            List.rel_append outlined outlined'
          rwa [List.take_append_drop] at whole
        · cases later with
          | nil => simp
          | cons window later =>
              have more := List.length_pos_of_ne_nil walk.flatten_ne_nil
              rw [outlined'.length_eq, List.length_drop, List.length_drop] at more
              rw [List.dropLast_cons_cons, List.forall_mem_cons]
              refine ⟨?_, full⟩
              omega

/-- Going through the windows of one size shows the records that match as they are listed. The
wiki has to be small enough for the first empty window to be asked for. -/
theorem exists_walk_listing (settings : Settings) (store : Wiki.Store) {namespaces : List Int}
    (includeIgnored : Bool) {limit : Nat}
    (storable : ∀ number ∈ namespaces, Wiki.isStorable number = true)
    (positive : 1 ≤ limit) (atMost : limit ≤ 500)
    (small : store.records.length + limit ≤ 2 ^ 63) :
    ∃ windows,
      Walk (fun index => respond settings store
        (listingRequest namespaces includeIgnored (index * limit) limit)) 0 windows ∧
      List.Forall₂ Outlines windows.flatten ((listed store namespaces includeIgnored).map
        fun record => record.page.migrate store.catalog settings.projectPrefix) ∧
      ∀ window ∈ windows.dropLast, window.length = limit := by
  have fewer : (listed store namespaces includeIgnored).length ≤ store.records.length :=
    List.length_filter_le _ _
  generalize pages_eq : ((listed store namespaces includeIgnored).map fun record =>
    record.page.migrate store.catalog settings.projectPrefix) = pages
  have few : pages.length + limit ≤ 2 ^ 63 := by
    rw [← pages_eq, List.length_map]
    omega
  have given (index : Nat) (within : index * limit < pages.length + limit) :
      ∃ entries, (respond settings store
          (listingRequest namespaces includeIgnored (index * limit) limit)).Gives
            (.list entries) ∧
        List.Forall₂ Outlines entries ((pages.drop (index * limit)).take limit) := by
    rw [← pages_eq]
    exact exists_gives_listingRequest settings store includeIgnored storable
      (Nat.lt_of_lt_of_le within few) positive atMost
  have walked := exists_walk positive given 0 (by omega)
  rwa [Nat.zero_mul, List.drop_zero] at walked

/-- Whatever changes have led to the state of the wiki, going through the windows of one size
lists each record that matches once, by its number and with what else is shown of its page, in
the order of the numbers, and no window but the last is short. The wiki has to be small enough
for the first empty window to be asked for, as every wiki in a database file is, which has no
more than 2 ^ 48 octets. -/
theorem walk_listing (settings : Settings) (changes : List Wiki.Change)
    {namespaces : List Int} (includeIgnored : Bool) {limit : Nat}
    (storable : ∀ number ∈ namespaces, Wiki.isStorable number = true)
    (positive : 1 ≤ limit) (atMost : limit ≤ 500)
    (small : (Wiki.Store.after changes).records.length + limit ≤ 2 ^ 63) :
    ∃ (windows : List (List Json.Value)) (records : List Wiki.Record),
      Walk (fun index => respond settings (Wiki.Store.after changes)
        (listingRequest namespaces includeIgnored (index * limit) limit)) 0 windows ∧
      windows.flatten.map (·.field? "id") =
        records.map (fun record => some (.integer record.id)) ∧
      List.Forall₂ Outlines windows.flatten (records.map fun record =>
        record.page.migrate (Wiki.Store.after changes).catalog settings.projectPrefix) ∧
      records.Pairwise (·.id < ·.id) ∧
      (∀ record, record ∈ records ↔
        Wiki.Store.latest? changes record.id = some record ∧
          (namespaces = [] ∨ record.namespaceNumber ∈ namespaces) ∧
          (includeIgnored = true ∨ record.page.space.isIgnored = false)) ∧
      ∀ window ∈ windows.dropLast, window.length = limit := by
  obtain ⟨windows, walk, outlined, full⟩ := exists_walk_listing settings
    (Wiki.Store.after changes) includeIgnored storable positive atMost small
  refine ⟨windows, listed (Wiki.Store.after changes) namespaces includeIgnored, walk, ?_,
    outlined, (Wiki.Store.after changes).sorted.filter _, fun record => ?_, full⟩
  · rw [ids_eq_of_forall₂ outlined, List.map_map, List.map_map]
    rfl
  · rw [listed, List.mem_filter, Wiki.Selection.admits_iff, Wiki.Store.mem_records_after]

/-- Changes after which a page is ignored that was not at first, one has gone and come back,
and one has been refused for want of a title. -/
def busyChanges : List Wiki.Change :=
  [.put { id := 5, title := some "E".toList }, .put { id := 1, title := some "A".toList },
    .put { id := 5, namespaceNumber := 14, title := some "E".toList }, .delete 1,
    .put { id := 9, title := some "I".toList }, .put { id := 7, title := none },
    .enroll 9 "C".toList, .put { id := 1, title := some "B".toList },
    .put { id := 3, title := some "C".toList }]

/-- The page that has come back is listed, and so is the one in the second window; the one that
has come to be ignored is not. -/
theorem walk_listing_busyChanges :
    (∀ number ∈ [0, 14], Wiki.isStorable number = true) ∧
      (Wiki.Store.after busyChanges).records.length + 2 ≤ 2 ^ 63 ∧
      ∃ windows,
        Walk (fun index => respond {} (Wiki.Store.after busyChanges)
          (listingRequest [0, 14] false (index * 2) 2)) 0 windows ∧
        some (.integer 1) ∈ windows.flatten.map (·.field? "id") ∧
        some (.integer 9) ∈ windows.flatten.map (·.field? "id") ∧
        some (.integer 5) ∉ windows.flatten.map (·.field? "id") := by
  have storable : ∀ number ∈ [0, 14], Wiki.isStorable number = true := by decide
  have small : (Wiki.Store.after busyChanges).records.length + 2 ≤ 2 ^ 63 := by
    decide +kernel
  obtain ⟨windows, records, walk, ids, -, -, isListed, -⟩ :=
    walk_listing {} busyChanges false storable (by decide) (by decide) small
  have shown {record : Wiki.Record} (matching : record ∈ records) :
      some (.integer record.id) ∈ windows.flatten.map (·.field? "id") := by
    rw [ids]
    exact List.mem_map.mpr ⟨record, matching, rfl⟩
  refine ⟨storable, small, windows, walk, ?_, ?_, ?_⟩
  · refine shown ((isListed { id := 1, title := some "B".toList }).mpr ⟨?_, ?_, ?_⟩)
    all_goals decide +kernel
  · refine shown ((isListed { id := 9, title := some "I".toList }).mpr ⟨?_, ?_, ?_⟩)
    all_goals decide +kernel
  · intro five
    rw [ids] at five
    obtain ⟨record, matching, same⟩ := List.mem_map.mp five
    have number : record.id = 5 := by
      rwa [Option.some_inj, Json.Value.integer.injEq] at same
    obtain ⟨found, -, unignored⟩ := (isListed record).mp matching
    have last : Wiki.Store.latest? busyChanges 5 =
        some { id := 5, namespaceNumber := 14, title := some "E".toList } := by
      decide +kernel
    rw [number, last, Option.some_inj] at found
    rw [← found] at unignored
    exact absurd unignored (by decide +kernel)

end DekiMigration.Service
