/-
# Requests for pages

A page is asked for by its number, which stands in the path; a list of pages is asked for with
namespaces, a window and word on whether ignored pages are wanted, which stand in the query.
What is written into such a request is read out of it again, and the response shows the
pages of the wiki that were asked for.
-/

import DekiMigration.Proofs.PageBodies
import DekiMigration.Proofs.Steps
import DekiMigration.Proofs.Text.Decimal

namespace DekiMigration

open Text

namespace Wiki

theorem isStorable_iff {number : Int} :
    isStorable number = true ↔ -(2 ^ 63) ≤ number ∧ number < 2 ^ 63 := by
  rw [isStorable, Bool.and_eq_true, decide_eq_true_eq, decide_eq_true_eq]
  rfl

/-- A selection admits the records in the namespaces it names, or in any when it names none,
unless they are ignored and not asked for. -/
theorem Selection.admits_iff {selection : Selection} {record : Record} :
    selection.admits record = true ↔
      (selection.namespaces = [] ∨ record.namespaceNumber ∈ selection.namespaces) ∧
        (selection.includeIgnored = true ∨ record.page.space.isIgnored = false) := by
  have ignored : (!Namespace.ignoredNumbers.contains record.namespaceNumber) = true ↔
      record.page.space.isIgnored = false := by
    rw [Bool.not_eq_true', ← Bool.not_eq_true, List.contains_iff_mem,
      Namespace.mem_ignoredNumbers, Bool.not_eq_true]
    rfl
  rw [admits, Bool.and_eq_true, Bool.or_eq_true, Bool.or_eq_true, List.isEmpty_iff,
    List.contains_iff_mem, ignored]

namespace Store

variable {store : Store} {record : Record}

/-- A selection with storable numbers shows its window of the records it admits. -/
theorem migratedPages_of_isStorable (store : Store) (projectPrefix : Text)
    {selection : Selection} (storable : selection.isStorable = true) :
    store.migratedPages projectPrefix selection =
      .ok ((selection.window (store.records.filter selection.admits)).map fun record =>
        record.page.migrate store.catalog projectPrefix) := by
  have migrated_eq : (fun record : Record => record.page.migrate store.catalog projectPrefix) =
      (fun page : SourcePage => page.migrate store.catalog projectPrefix) ∘ Record.page := rfl
  rw [migratedPages, pages, if_pos storable, migrated_eq, ← List.map_map]
  rfl

/-- Records with one number are one record. -/
theorem eq_of_id_eq {other : Record} (listed : record ∈ store.records)
    (listed' : other ∈ store.records) (same : record.id = other.id) : record = other := by
  have distinct : (store.records.map (·.id)).Nodup :=
    List.pairwise_map.mpr (store.sorted.imp Int.ne_of_lt)
  exact List.inj_on_of_nodup_map distinct listed listed' same

/-- A record is found under its number. -/
theorem record?_of_mem (listed : record ∈ store.records) :
    store.record? record.id = some record := by
  cases found : store.record? record.id with
  | none =>
      rw [record?, List.find?_eq_none] at found
      exact absurd (decide_eq_true rfl) (found record listed)
  | some other =>
      have same := List.find?_some found
      rw [eq_of_id_eq (List.mem_of_find?_eq_some found) listed (of_decide_eq_true same)]

theorem isStorable_of_mem (listed : record ∈ store.records) : isStorable record.id = true := by
  have kept := (store.kept record listed).1
  rw [Record.isStorable, Bool.and_eq_true, Bool.and_eq_true] at kept
  exact kept.1.1

/-- The page of a record is there to be migrated. -/
theorem migrated_of_mem (listed : record ∈ store.records) (projectPrefix : Text) :
    ∃ categories, store.migrated projectPrefix record.id =
      .ok (record.page.migrate store.catalog projectPrefix categories) := by
  have storable := isStorable_of_mem listed
  refine ⟨sort ((store.memberships.filter (·.1 = record.id)).map (·.2)), ?_⟩
  rw [migrated, page, storable, record?_of_mem listed, categories, storable]
  rfl

end Store

end Wiki

namespace Service

open Validation

/-- The request for a page. -/
def pageRequest (id : Int) : Request where
  method := "GET".toList
  path := Route.pageLead ++ ofInt id

/-- The request for a window of the list of pages. -/
def windowRequest (includeIgnored : Bool) (skip limit : Nat) : Request where
  method := "GET".toList
  path := "/api/v1/pages".toList
  query := [("include_ignored".toList, if includeIgnored then "true".toList else "false".toList),
    ("skip".toList, ofNat skip), ("limit".toList, ofNat limit)]

/-- The request for a window of the list of the pages in some namespaces. -/
def listingRequest (namespaces : List Int) (includeIgnored : Bool) (skip limit : Nat) :
    Request :=
  { windowRequest includeIgnored skip limit with
    query := namespaces.map (fun number => ("namespace".toList, ofInt number)) ++
      (windowRequest includeIgnored skip limit).query }

/-- What stands in the place of a number leads to a page. -/
theorem ofPath?_pageLead {id : Text} (nonempty : id ≠ []) (slashless : '/' ∉ id) :
    Route.ofPath? (Route.pageLead ++ id) = some (.page id) := by
  have apart : ∀ entry ∈ Route.fixed, ¬ Route.pageLead <+: entry.1 ∧
      ¬ Route.pageLead <+: entry.1 ++ ['\n'] := by
    decide
  have behind : dropLead? Route.pageLead (Route.pageLead ++ id) = some id :=
    dropLead?_eq_some.mpr rfl
  rw [Route.ofPath?]
  split
  · next entry found =>
      have isFixed := List.mem_of_find?_eq_some found
      have same := List.find?_some found
      rw [Bool.or_eq_true, decide_eq_true_eq, decide_eq_true_eq] at same
      rcases same with same | same
      · exact absurd ⟨id, same⟩ (apart _ isFixed).1
      · exact absurd ⟨id, same⟩ (apart _ isFixed).2
  · rw [behind, Option.bind_some, if_neg (by simp [nonempty, slashless])]

theorem answer_of_page {settings : Settings} {store : Wiki.Store} {request : Request} {id : Text}
    (routed : Route.ofPath? request.path = some (.page id))
    (asked : request.method = (Route.page id).method) :
    answer settings store request = showPage settings.projectPrefix store id := by
  have allowed : ¬ (request.method != (Route.page id).method) = true := by simp [asked]
  simp only [answer, routed, if_neg allowed]

theorem answer_of_pages {settings : Settings} {store : Wiki.Store} {request : Request}
    (routed : Route.ofPath? request.path = some .pages)
    (asked : request.method = Route.pages.method) :
    answer settings store request = listPages settings.projectPrefix store request := by
  have allowed : ¬ (request.method != Route.pages.method) = true := by simp [asked]
  simp only [answer, routed, if_neg allowed]

theorem listPages_eq_pages {projectPrefix : Text} {store : Wiki.Store} {request : Request}
    {selection : Wiki.Selection} {shown : List MigratedPage}
    (selected : selectionOf request = .ok selection)
    (migrated : store.migratedPages projectPrefix selection = .ok shown) :
    listPages projectPrefix store request = .pages shown := by
  rw [listPages, selected]
  dsimp only
  rw [migrated]

/-- Numbers of 64 bits are short enough to be read. -/
theorem wholeNumber_of_isStorable {number : Int} (storable : Wiki.isStorable number = true) :
    wholeNumber (ofInt number) = .ok number := by
  apply wholeNumber_ofInt
  have wide : 2 ^ 63 < 10 ^ maxDigits :=
    Nat.lt_of_lt_of_le (by decide : 2 ^ 63 < 10 ^ 19)
      (Nat.pow_le_pow_right (by decide) (by decide : 19 ≤ maxDigits))
  apply Nat.lt_of_le_of_lt ?_ wide
  have range := Wiki.isStorable_iff.mp storable
  omega

/-- A page that the wiki has is shown. -/
theorem answer_pageRequest (settings : Settings) {store : Wiki.Store} {record : Wiki.Record}
    (listed : record ∈ store.records) :
    ∃ categories, answer settings store (pageRequest record.id) =
      .page (record.page.migrate store.catalog settings.projectPrefix categories) := by
  obtain ⟨categories, migrated⟩ := Wiki.Store.migrated_of_mem listed settings.projectPrefix
  have routed : Route.ofPath? (pageRequest record.id).path = some (.page (ofInt record.id)) :=
    ofPath?_pageLead (ofInt_ne_nil record.id) ((isPlain_ofInt record.id).not_mem (by decide))
  have read := wholeNumber_of_isStorable (Wiki.Store.isStorable_of_mem listed)
  refine ⟨categories, ?_⟩
  rw [answer_of_page routed rfl, showPage, read]
  dsimp only
  rw [migrated]

/-- The response for a page that the wiki has shows it. -/
theorem exists_gives_pageRequest (settings : Settings) {store : Wiki.Store}
    {record : Wiki.Record} (listed : record ∈ store.records) :
    ∃ shown, (respond settings store (pageRequest record.id)).Gives shown ∧
      Portrays shown (record.page.migrate store.catalog settings.projectPrefix) := by
  obtain ⟨categories, answered⟩ := answer_pageRequest settings listed
  obtain ⟨shown, gives, portrays⟩ := exists_gives_of_page rfl answered
  exact ⟨shown, gives, portrays.of_categories rfl⟩

theorem isStorable_of_lt {number : Nat} (small : number < 2 ^ 63) :
    Wiki.isStorable number = true := by
  rw [Wiki.isStorable_iff]
  omega

theorem atLeast_ofNat {least : Int} {number : Nat} (small : number < 2 ^ 63)
    (enough : least ≤ number) : atLeast least (ofNat number) = .ok (number : Int) := by
  have read : wholeNumber (ofNat number) = .ok (number : Int) :=
    wholeNumber_of_isStorable (isStorable_of_lt small)
  rw [atLeast, read]
  exact if_neg (Int.not_lt.mpr enough)

theorem between_ofNat {least greatest : Int} {number : Nat} (small : number < 2 ^ 63)
    (enough : least ≤ number) (atMost : number ≤ greatest) :
    between least greatest (ofNat number) = .ok (number : Int) := by
  rw [between, atLeast_ofNat small enough]
  exact if_neg (Int.not_lt.mpr atMost)

/-- The parameters of a window within bounds are all acceptable. -/
theorem Listing.ofRequest_windowRequest (includeIgnored : Bool) {skip limit : Nat}
    (bounded : skip < 2 ^ 63) (positive : 1 ≤ limit) (atMost : limit ≤ 500) :
    Listing.ofRequest (windowRequest includeIgnored skip limit) =
      { namespaces := [], skip := .ok skip, limit := .ok limit
        includeIgnored := .ok includeIgnored } := by
  have skipped : atLeast 0 (ofNat skip) = .ok (skip : Int) :=
    atLeast_ofNat bounded (Int.natCast_nonneg skip)
  have limited : between 1 greatestLimit (ofNat limit) = .ok (limit : Int) := by
    apply between_ofNat (Nat.lt_of_le_of_lt atMost (by decide)) (by omega)
    exact Int.ofNat_le.mpr atMost
  rw [← skipped, ← limited]
  cases includeIgnored <;> rfl

theorem parameters_listingRequest (namespaces : List Int) (includeIgnored : Bool)
    (skip limit : Nat) :
    (listingRequest namespaces includeIgnored skip limit).parameters "namespace".toList =
      namespaces.map ofInt := by
  have none_else : (windowRequest includeIgnored skip limit).query.filter
      (·.1 = "namespace".toList) = [] := rfl
  have all : (namespaces.map fun number => ("namespace".toList, ofInt number)).filter
      (·.1 = "namespace".toList) =
        namespaces.map fun number => ("namespace".toList, ofInt number) := by
    rw [List.filter_eq_self]
    intro entry isEntry
    obtain ⟨number, -, rfl⟩ := List.mem_map.mp isEntry
    exact decide_eq_true rfl
  rw [Request.parameters, listingRequest, List.filter_append, all, none_else, List.append_nil,
    List.map_map]
  rfl

/-- The namespaces stand in front, so the parameters behind them are those of the window. -/
theorem parameter?_listingRequest {namespaces : List Int} {includeIgnored : Bool}
    {skip limit : Nat} {name value : Text}
    (known : (windowRequest includeIgnored skip limit).parameter? name = some value) :
    (listingRequest namespaces includeIgnored skip limit).parameter? name = some value := by
  rw [Request.parameter?] at known
  rw [Request.parameter?, listingRequest, List.reverse_append, List.lookup_append, known,
    Option.some_or]

/-- The request gives what that for the window gives, and the namespaces. -/
theorem Listing.ofRequest_listingRequest (namespaces : List Int) (includeIgnored : Bool)
    (skip limit : Nat) :
    Listing.ofRequest (listingRequest namespaces includeIgnored skip limit) =
      { Listing.ofRequest (windowRequest includeIgnored skip limit) with
        namespaces := (namespaces.map ofInt).map wholeNumber } := by
  rw [Listing.ofRequest, Listing.ofRequest]
  dsimp only
  rw [parameters_listingRequest, parameter?_listingRequest rfl, parameter?_listingRequest rfl,
    parameter?_listingRequest rfl]
  rfl

/-- A window that is asked for within bounds is the selection that is made, with the
namespaces it names. -/
theorem selectionOf_listingRequest {namespaces : List Int} (includeIgnored : Bool)
    {skip limit : Nat} (storable : ∀ number ∈ namespaces, Wiki.isStorable number = true)
    (bounded : skip < 2 ^ 63) (positive : 1 ≤ limit) (atMost : limit ≤ 500) :
    selectionOf (listingRequest namespaces includeIgnored skip limit) =
      .ok { namespaces, skip := skip, limit := some limit, includeIgnored } := by
  have numbers : (namespaces.map ofInt).map wholeNumber = namespaces.map .ok := by
    rw [List.map_map]
    exact List.map_congr_left fun number isNamed =>
      wholeNumber_of_isStorable (storable number isNamed)
  rw [selectionOf, Listing.ofRequest_listingRequest, numbers,
    Listing.ofRequest_windowRequest includeIgnored bounded positive atMost, Listing.selection]
  dsimp only
  rw [mapM_id_ok]
  rfl

/-- The records that a listing shows when the window is left aside. -/
def listed (store : Wiki.Store) (namespaces : List Int) (includeIgnored : Bool) :
    List Wiki.Record :=
  store.records.filter (Wiki.Selection.admits { namespaces, includeIgnored })

/-- A window shows its part of the records that match. -/
theorem answer_listingRequest (settings : Settings) (store : Wiki.Store)
    {namespaces : List Int} (includeIgnored : Bool) {skip limit : Nat}
    (storable : ∀ number ∈ namespaces, Wiki.isStorable number = true)
    (bounded : skip < 2 ^ 63) (positive : 1 ≤ limit) (atMost : limit ≤ 500) :
    answer settings store (listingRequest namespaces includeIgnored skip limit) =
      .pages ((((listed store namespaces includeIgnored).map fun record =>
        record.page.migrate store.catalog settings.projectPrefix).drop skip).take limit) := by
  have routed : Route.ofPath? (listingRequest namespaces includeIgnored skip limit).path =
      some .pages := by
    show Route.ofPath? "/api/v1/pages".toList = some .pages
    decide
  have selected := selectionOf_listingRequest includeIgnored storable bounded positive atMost
  have within : Wiki.Selection.isStorable
      { namespaces, skip := skip, limit := some (limit : Int), includeIgnored } = true := by
    have storable' := isStorable_of_lt (Nat.lt_of_le_of_lt atMost (by decide))
    rw [Wiki.Selection.isStorable, List.all_eq_true.mpr storable, isStorable_of_lt bounded,
      Option.all_some, storable']
    rfl
  rw [answer_of_pages routed rfl, ← List.map_drop, ← List.map_take]
  exact listPages_eq_pages selected
    (store.migratedPages_of_isStorable settings.projectPrefix within)

/-- The response for a window lists its part of the records that match. -/
theorem exists_gives_listingRequest (settings : Settings) (store : Wiki.Store)
    {namespaces : List Int} (includeIgnored : Bool) {skip limit : Nat}
    (storable : ∀ number ∈ namespaces, Wiki.isStorable number = true)
    (bounded : skip < 2 ^ 63) (positive : 1 ≤ limit) (atMost : limit ≤ 500) :
    ∃ entries, (respond settings store
        (listingRequest namespaces includeIgnored skip limit)).Gives (.list entries) ∧
      List.Forall₂ Outlines entries
        ((((listed store namespaces includeIgnored).map fun record =>
          record.page.migrate store.catalog settings.projectPrefix).drop skip).take limit) :=
  exists_gives_of_pages rfl
    (answer_listingRequest settings store includeIgnored storable bounded positive atMost)

end Service

end DekiMigration
