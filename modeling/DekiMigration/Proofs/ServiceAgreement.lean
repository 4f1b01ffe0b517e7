/-
# The service and the conversion

The service reads the pages of a wiki one by one or in windows, and a conversion takes them
all in a row. Each has its own way of finding the templates and of leaving out what is not
migrated: the wiki is asked for the records in the namespace of templates, or outside the
namespaces that are ignored, while a conversion looks at the namespace of every page, which
for most numbers is none. They come to the same: what the service shows of a wiki is what
the conversion of all its pages makes of it.
-/

import Mathlib
import DekiMigration.Proofs.ExportOrder
import DekiMigration.Proofs.PageRequests

namespace DekiMigration

open Text

namespace Wiki

/-- The pages of a wiki as an export. -/
def Store.exported (store : Store) : Export :=
  { pages := store.records.map Record.page }

namespace Store

/-- A listing that is not restricted shows all pages. -/
theorem pages_all (store : Store) : store.pages {} = .ok store.exported.pages := by
  have storable : Selection.isStorable {} = true := by decide
  have all : store.records.filter (Selection.admits {}) = store.records :=
    List.filter_eq_self.mpr fun _ _ => rfl
  rw [pages, if_pos storable, all]
  rfl

/-- The records of a wiki, those that are ignored left out or not. -/
def migratable (store : Store) (includeIgnored : Bool) : List Record :=
  store.records.filter fun record => includeIgnored || !record.page.space.isIgnored

/-- The templates that are looked for in the wiki are those among its pages. -/
theorem catalog_eq (store : Store) : store.catalog = store.exported.catalog := by
  show _ = Template.Catalog.ofTitles (((store.records.map Record.page).filter _).map _)
  rw [catalog, List.filter_map, List.map_map]
  rfl

end Store

end Wiki

namespace Service

theorem listed_eq_migratable (store : Wiki.Store) (includeIgnored : Bool) :
    listed store [] includeIgnored = store.migratable includeIgnored := by
  apply List.filter_congr
  intro record _
  rw [Bool.eq_iff_iff, Wiki.Selection.admits_iff, Bool.or_eq_true, Bool.not_eq_true']
  simp

/-- A window lists its part of the pages, those that are ignored left out or not. -/
theorem exists_gives_windowRequest (settings : Settings) (store : Wiki.Store)
    (includeIgnored : Bool) {skip limit : Nat} (bounded : skip < 2 ^ 63) (positive : 1 ≤ limit)
    (atMost : limit ≤ 500) :
    ∃ entries, (respond settings store (windowRequest includeIgnored skip limit)).Gives
        (.list entries) ∧
      List.Forall₂ Outlines entries ((((store.migratable includeIgnored).map fun record =>
        record.page.migrate store.catalog settings.projectPrefix).drop skip).take limit) := by
  have unnamed : windowRequest includeIgnored skip limit =
      listingRequest [] includeIgnored skip limit := rfl
  rw [← listed_eq_migratable, unnamed]
  exact exists_gives_listingRequest settings store includeIgnored (List.forall_mem_nil _) bounded
    positive atMost

/-- Windows of one size that follow each other put together again what they are cut from. -/
theorem forall₂_windows {α β : Type} {R : α → β → Prop} {shown : Nat → List α} {items : List β}
    {limit windows : Nat}
    (each : ∀ index < windows,
      List.Forall₂ R (shown index) ((items.drop (index * limit)).take limit)) :
    List.Forall₂ R ((List.range windows).flatMap shown) (items.take (windows * limit)) := by
  induction windows with
  | zero =>
      rw [Nat.zero_mul, List.take_zero]
      exact .nil
  | succ windows ih =>
      rw [List.range_succ, List.flatMap_append, List.flatMap_singleton, Nat.succ_mul,
        List.take_add]
      apply List.rel_append
      · exact ih fun index isIndex => each index (Nat.lt_succ_of_lt isIndex)
      · exact each windows (Nat.lt_succ_self windows)

/-- Asking for one window after the other lists the pages in order. -/
theorem outlines_windows (settings : Settings) (store : Wiki.Store) (includeIgnored : Bool)
    {limit windows : Nat} (positive : 1 ≤ limit) (atMost : limit ≤ 500)
    (bounded : windows * limit ≤ 2 ^ 63) :
    List.Forall₂ Outlines
      ((List.range windows).flatMap fun index =>
        (respond settings store (windowRequest includeIgnored (index * limit) limit)).entries)
      (((store.migratable includeIgnored).map fun record =>
        record.page.migrate store.catalog settings.projectPrefix).take (windows * limit)) := by
  apply forall₂_windows
  intro index isIndex
  have before : index * limit < windows * limit := Nat.mul_lt_mul_of_pos_right isIndex positive
  obtain ⟨entries, gives, outlined⟩ := exists_gives_windowRequest settings store includeIgnored
    (Nat.lt_of_lt_of_le before bounded) positive atMost
  rwa [gives.entries_eq]

/-- Without a limit a task asks for the pages of the records that are migrated. -/
theorem selected_exported {task : Program.Task} (store : Wiki.Store)
    (whole : task.options.limit = none) :
    task.selected store.exported =
      (store.migratable task.options.includeIgnored).map Wiki.Record.page := by
  rw [Program.Task.selected, Program.Task.taken, whole, Conversion.quota, List.take_length,
    Wiki.Store.exported, List.filter_map]
  rfl

/-- The service migrates a wiki as a conversion of all its pages does. -/
structure Agrees (settings : Settings) (store : Wiki.Store) (task : Program.Task)
    (result : Conversion.Result) : Prop where
  /-- A listing without restrictions shows the pages that are converted. -/
  pages_eq : store.pages {} = .ok store.exported.pages
  /-- Both know the same templates. -/
  catalog_eq : store.catalog = store.exported.catalog
  /-- The response for a page shows it as the conversion records it. -/
  shown : ∀ record ∈ store.records, ∃ shown,
    (respond settings store (pageRequest record.id)).Gives shown ∧
      Portrays shown (task.record store.exported record.page)
  /-- The conversion takes the pages in the order of their numbers. -/
  converted : result.converted <+: (store.migratable task.options.includeIgnored).map
    fun record => task.record store.exported record.page
  /-- If it comes to its end, it has taken them all. -/
  converted_eq : result.problem = none →
    result.converted = (store.migratable task.options.includeIgnored).map
      fun record => task.record store.exported record.page
  /-- Then the response for a window of the list of pages lists its part of them, in that
  order. -/
  window : result.problem = none → ∀ skip limit, skip < 2 ^ 63 → 1 ≤ limit → limit ≤ 500 →
    ∃ entries, (respond settings store
        (windowRequest task.options.includeIgnored skip limit)).Gives (.list entries) ∧
      List.Forall₂ Outlines entries ((result.converted.drop skip).take limit)
  /-- One window after the other lists them all. -/
  windows : result.problem = none → ∀ count limit, 1 ≤ limit → limit ≤ 500 →
    count * limit ≤ 2 ^ 63 →
    List.Forall₂ Outlines
      ((List.range count).flatMap fun index => (respond settings store
        (windowRequest task.options.includeIgnored (index * limit) limit)).entries)
      (result.converted.take (count * limit))

/-- The service and a conversion of all pages of the wiki migrate it alike when both put the
same in front of the titles of pages about the project. -/
theorem respond_agrees_with_conversion (settings : Settings) (store : Wiki.Store)
    (task : Program.Task) (directory : Place) (disk : Disk)
    (samePrefix : task.settings.projectPrefix = settings.projectPrefix)
    (whole : task.options.limit = none) :
    Agrees settings store task (task.conversion store.exported directory disk) := by
  obtain ⟨front, all⟩ := Program.conversion_converted task store.exported directory disk
  rw [selected_exported store whole, List.map_map] at front all
  have record_eq (record : Wiki.Record) :
      record.page.migrate store.catalog settings.projectPrefix =
        task.record store.exported record.page := by
    rw [Program.Task.record, samePrefix, store.catalog_eq]
  have migrated_eq : ((store.migratable task.options.includeIgnored).map fun record =>
      record.page.migrate store.catalog settings.projectPrefix) =
        (store.migratable task.options.includeIgnored).map
          (task.record store.exported ∘ Wiki.Record.page) :=
    List.map_congr_left fun record _ => record_eq record
  refine ⟨store.pages_all, store.catalog_eq, fun record listed => ?_, front, all,
    fun ended skip limit bounded positive atMost => ?_,
    fun ended count limit positive atMost bounded => ?_⟩
  · rw [← record_eq]
    exact exists_gives_pageRequest settings listed
  · rw [all ended, ← migrated_eq]
    exact exists_gives_windowRequest settings store _ bounded positive atMost
  · rw [all ended, ← migrated_eq]
    exact outlines_windows settings store _ positive atMost bounded

/-- A wiki with a page that calls a template, the template, an ignored page, and a page in a
namespace that is not known. -/
def mixedWiki : Wiki.Store where
  records :=
    [{ id := 1, title := some "A".toList, text := some "\x7b\x7bTemplate:T\x7d\x7d".toList },
      { id := 2, namespaceNumber := 10, title := some "T".toList },
      { id := 5, namespaceNumber := 14, title := some "C".toList },
      { id := 7, namespaceNumber := 99, title := some "X".toList }]
  sorted := by decide
  kept := by decide +kernel

/-- A task that converts all pages but the ignored ones, and writes nothing. -/
def allPagesTask : Program.Task :=
  Program.firstPageTask.limited none

theorem respond_agrees_with_conversion_mixedWiki :
    allPagesTask.settings.projectPrefix = Settings.projectPrefix {} ∧
      allPagesTask.options.limit = none ∧
      (∃ shown, (respond {} mixedWiki (pageRequest 1)).Gives shown ∧
        shown.field? "title" = some (.string "A".toList) ∧
        shown.field? "text" = some (.string "\x7bs:T\x7d".toList)) ∧
      ∃ entries, (respond {} mixedWiki (windowRequest false 1 2)).Gives (.list entries) ∧
        entries.map (·.field? "id") = [some (.integer 2), some (.integer 7)] := by
  have agrees := respond_agrees_with_conversion {} mixedWiki allPagesTask [] {} rfl rfl
  have ended : (allPagesTask.conversion mixedWiki.exported [] {}).problem = none := by
    decide +kernel
  refine ⟨rfl, rfl, ?_, ?_⟩
  · obtain ⟨shown, gives, portrays⟩ := agrees.shown _ List.mem_cons_self
    have text : (allPagesTask.record mixedWiki.exported
        (mixedWiki.records.head (by decide)).page).text = "\x7bs:T\x7d".toList := by
      decide +kernel
    refine ⟨shown, gives, portrays.title, ?_⟩
    rw [portrays.text, ← text]
    rfl
  · obtain ⟨entries, gives, outlined⟩ :=
      agrees.window ended 1 2 (by decide) (by decide) (by decide)
    have ids : (((allPagesTask.conversion mixedWiki.exported [] {}).converted.drop 1).take
        2).map (·.id) = [2, 7] := by
      decide +kernel
    exact ⟨entries, gives, (ids_eq_of_forall₂ outlined).trans (congrArg _ ids)⟩

end Service

end DekiMigration
