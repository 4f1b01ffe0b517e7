/-
# Failures of the service

A number in a request may be as large as its sender likes, but the wiki only takes numbers of
64 bits. Whatever else a request for pages asks for is answered, with the pages or with word
that there is none; so a request that is acceptable fails exactly when one of its numbers is
too large for the wiki.
-/

import DekiMigration.Proofs.ServiceAgreement
import DekiMigration.Proofs.WikiHistory

namespace DekiMigration

open Text

namespace Service

open Validation

theorem le_of_atLeast {least number : Int} {text : Text}
    (read : atLeast least text = .ok number) : least ≤ number := by
  rw [atLeast, bind_eq_ok] at read
  obtain ⟨found, -, kept⟩ := read
  split at kept
  · cases kept
  · next enough =>
      cases kept
      exact Int.not_lt.mp enough

theorem le_of_between {least greatest number : Int} {text : Text}
    (read : between least greatest text = .ok number) : least ≤ number ∧ number ≤ greatest := by
  rw [between, bind_eq_ok] at read
  obtain ⟨found, enough, kept⟩ := read
  split at kept
  · cases kept
  · next notMore =>
      cases kept
      exact ⟨le_of_atLeast enough, Int.not_lt.mp notMore⟩

/-- The limit of a selection that is made from parameters fits into any wiki. -/
theorem isStorable_limit {request : Request} {selection : Wiki.Selection}
    (selected : selectionOf request = .ok selection) :
    selection.limit.all Wiki.isStorable = true := by
  rw [selectionOf, mapError_eq_ok, Listing.selection] at selected
  simp only [bind_eq_ok] at selected
  obtain ⟨namespaces, -, skip, -, limit, limited, includeIgnored, -, same⟩ := selected
  cases same
  rw [Option.all_some, Wiki.isStorable_iff]
  rw [Listing.ofRequest] at limited
  dsimp only at limited
  cases given : request.parameter? "limit".toList with
  | none =>
      rw [given] at limited
      cases limited
      decide
  | some text =>
      rw [given, Option.map_some, Option.getD_some] at limited
      have bounds := le_of_between limited
      rw [greatestLimit] at bounds
      omega

/-- What a request for pages asks the wiki for. -/
inductive Asked where
  | page (id : Int)
  | listing (selection : Wiki.Selection)

/-- A request leads to a page or to the list of pages, and its parameters are acceptable. -/
inductive Asks (request : Request) : Asked → Prop where
  | page {text : Text} {id : Int} (routed : Route.ofPath? request.path = some (.page text))
      (allowed : request.method = Route.method (.page text))
      (read : wholeNumber text = .ok id) : Asks request (.page id)
  | listing {selection : Wiki.Selection} (routed : Route.ofPath? request.path = some .pages)
      (allowed : request.method = Route.method .pages)
      (selected : selectionOf request = .ok selection) : Asks request (.listing selection)

namespace Asked

/-- The numbers that have to fit into the wiki. -/
def numbers : Asked → List Int
  | page id => [id]
  | listing selection => selection.skip :: selection.namespaces

/-- The status is one of an answer: a page is shown, or it is said that there is none just
when there is none. -/
def IsAnsweredBy (store : Wiki.Store) (status : Nat) : Asked → Prop
  | page id =>
    (status = 200 ∨ status = 404) ∧ (status = 404 ↔ ∀ record ∈ store.records, record.id ≠ id)
  | listing _ => status = 200 ∨ status = 404

end Asked

/-- A page is shown when it is there, unless its number is too large to be looked for. -/
theorem status_of_page (settings : Settings) (store : Wiki.Store) {request : Request} {id : Int}
    (asks : Asks request (.page id)) :
    (answer settings store request).status =
      if Wiki.isStorable id then if (store.record? id).isSome then 200 else 404 else 500 := by
  obtain ⟨routed, allowed, read⟩ := asks
  rw [answer_of_page routed allowed, showPage, read]
  dsimp only
  rw [Wiki.Store.migrated, Wiki.Store.page, Wiki.Store.categories]
  cases Wiki.isStorable id with
  | false => rfl
  | true => cases store.record? id <;> rfl

/-- A list of pages is shown unless a number is too large. -/
theorem status_of_listing (settings : Settings) (store : Wiki.Store) {request : Request}
    {selection : Wiki.Selection} (asks : Asks request (.listing selection)) :
    (answer settings store request).status =
      if (Asked.listing selection).numbers.all Wiki.isStorable then 200 else 500 := by
  obtain - | ⟨routed, allowed, selected⟩ := asks
  have storable : selection.isStorable =
      (Asked.listing selection).numbers.all Wiki.isStorable := by
    rw [Wiki.Selection.isStorable, isStorable_limit selected, Bool.and_true, Bool.and_comm]
    rfl
  rw [answer_of_pages routed allowed, listPages, selected, ← storable]
  dsimp only
  rw [Wiki.Store.migratedPages, Wiki.Store.pages]
  cases selection.isStorable <;> rfl

/-- An acceptable request for pages is answered exactly when all its numbers fit into 64 bits.
Otherwise the service fails. -/
theorem isAnsweredBy_iff (settings : Settings) (store : Wiki.Store) {request : Request}
    {asked : Asked} (asks : Asks request asked) :
    (asked.IsAnsweredBy store (answer settings store request).status ↔
        ∀ number ∈ asked.numbers, Wiki.isStorable number = true) ∧
      ((∃ number ∈ asked.numbers, Wiki.isStorable number = false) →
        (answer settings store request).status = 500) := by
  cases asked with
  | page id =>
      rw [status_of_page settings store asks, Asked.IsAnsweredBy, Asked.numbers,
        List.forall_mem_singleton, ← Wiki.Store.record?_eq_none_iff]
      cases storable : Wiki.isStorable id with
      | false => simp
      | true => cases store.record? id <;> simp [storable]
  | listing selection =>
      rw [status_of_listing settings store asks, Asked.IsAnsweredBy, ← List.all_eq_true]
      cases fits : (Asked.listing selection).numbers.all Wiki.isStorable with
      | false => simp
      | true =>
          refine ⟨by simp, fun ⟨number, isNumber, large⟩ => ?_⟩
          rw [List.all_eq_true.mp fits number isNumber] at large
          cases large

/-- A page that is not there is said not to be there. -/
theorem isAnsweredBy_missingPage :
    Asks (pageRequest 3) (.page 3) ∧
      (∀ number ∈ (Asked.page 3).numbers, Wiki.isStorable number = true) ∧
      (answer {} mixedWiki (pageRequest 3)).status = 404 := by
  have routed : Route.ofPath? (pageRequest 3).path = some (.page "3".toList) := by
    decide +kernel
  have asks : Asks (pageRequest 3) (.page 3) := .page routed rfl (by decide +kernel)
  have storable : ∀ number ∈ (Asked.page 3).numbers, Wiki.isStorable number = true := by decide
  have answered := (isAnsweredBy_iff {} mixedWiki asks).1.mpr storable
  exact ⟨asks, storable, answered.2.mpr (by decide)⟩

/-- One that is not there and whose number is too large makes the service fail. -/
theorem not_isAnsweredBy_largePage :
    Asks (pageRequest (2 ^ 63)) (.page (2 ^ 63)) ∧
      ¬ (Asked.page (2 ^ 63)).IsAnsweredBy .empty
        (answer {} .empty (pageRequest (2 ^ 63))).status := by
  have routed : Route.ofPath? (pageRequest (2 ^ 63)).path =
      some (.page "9223372036854775808".toList) := by
    decide +kernel
  have fails : (answer {} .empty (pageRequest (2 ^ 63))).status = 500 := by decide +kernel
  refine ⟨.page routed rfl (by decide +kernel), ?_⟩
  rw [fails]
  exact fun answered => absurd answered.1 (by decide)

end Service

end DekiMigration
