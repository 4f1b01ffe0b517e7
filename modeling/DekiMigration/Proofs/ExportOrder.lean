/-
# The place of a page in an export

The templates of an export are all known before its first page is converted, those beyond
the limit and those that are left out as well, and their order does not matter. A page is
therefore given the same record wherever it stands. A limit cuts a conversion off behind the
pages that it selects, and leaving the ignored pages out takes their records away and no
others.
-/

import DekiMigration.Proofs.Template
import DekiMigration.Proofs.WrittenPages

namespace DekiMigration.Program

open Conversion

/-- The record of a page in the conversion of an export. -/
def Task.record (task : Task) (found : Export) (page : SourcePage) : MigratedPage :=
  page.migrate found.catalog task.settings.projectPrefix

/-- The pages of an export that a task asks for. -/
def Task.selected (task : Task) (found : Export) : List SourcePage :=
  (task.taken found).filter fun page =>
    task.options.includeIgnored || !page.space.isIgnored

/-- The task with another limit. -/
def Task.limited (task : Task) (limit : Option Int) : Task :=
  { task with options := { task.options with limit } }

/-- The task with ignored pages or without them. -/
def Task.including (task : Task) (includeIgnored : Bool) : Task :=
  { task with options := { task.options with includeIgnored } }

/-- The pages that are to be converted are the records of those that are asked for. -/
theorem converted_eq_map (task : Task) (found : Export) :
    task.converted found = (task.selected found).map (task.record found) := by
  rw [Task.converted, kept, List.filter_map, Task.selected]
  congr 1
  apply List.filter_congr
  intro page _
  show (!(page.space.isIgnored && !task.options.includeIgnored)) = _
  rw [Bool.not_and, Bool.not_not, Bool.or_comm]

/-- A catalog does not depend on the order of the pages. -/
theorem catalog_of_perm {found found' : Export} (reordered : found'.pages.Perm found.pages) :
    found'.catalog = found.catalog :=
  Template.Catalog.ofTitles_eq_of_perm ((reordered.filter _).map _)

/-- A task converts the first of the pages that it asks for, and all of them when it comes to
its end. -/
theorem conversion_converted (task : Task) (found : Export) (directory : Place) (disk : Disk) :
    (task.conversion found directory disk).converted <+:
        (task.selected found).map (task.record found) ∧
      ((task.conversion found directory disk).problem = none →
        (task.conversion found directory disk).converted =
          (task.selected found).map (task.record found)) := by
  rw [← converted_eq_map, task.conversion_eq]
  exact run_converted task.manner found.catalog directory _ disk

/-- With a limit the pages are those that the conversion without it takes from the front of
the export. -/
theorem conversion_limited (task : Task) (found : Export) (directory : Place) (disk : Disk)
    (count : Nat) :
    ((task.limited (some count)).conversion found directory disk).converted =
      ((task.limited none).conversion found directory disk).converted.take
        ((found.pages.take count).filter fun page =>
          task.options.includeIgnored || !page.space.isIgnored).length := by
  have width : ((task.limited (some count)).selected found).length =
      (kept task.manner found.catalog (found.pages.take count)).length := by
    rw [← List.length_map, ← converted_eq_map]
    rfl
  have conversion_eq : ((task.limited (some count)).conversion found directory disk).converted =
      ((task.limited none).conversion found directory disk).converted.take
        (kept task.manner found.catalog (found.pages.take count)).length :=
    run_take task.manner found.catalog directory found.pages count disk
  rw [conversion_eq, ← width]
  rfl

theorem selected_including (task : Task) (found : Export) :
    (task.including false).selected found =
      ((task.including true).selected found).filter fun page => !page.space.isIgnored := by
  rw [Task.selected, Task.selected, List.filter_filter]
  apply List.filter_congr
  intro page _
  exact (Bool.and_true _).symm

/-- Leaving the ignored pages out takes their records away, and no others. -/
theorem conversion_including (task : Task) (found : Export) (directory : Place) (disk : Disk) :
    ((task.including true).conversion found directory disk).converted.filter (!·.isIgnored) <+:
        ((task.including false).conversion found directory disk).converted ∧
      (((task.including true).conversion found directory disk).problem = none →
        ((task.including false).conversion found directory disk).problem = none ∧
          ((task.including false).conversion found directory disk).converted =
            ((task.including true).conversion found directory disk).converted.filter
              (!·.isIgnored)) := by
  have alike : disk.TakesAs disk directory := fun _ => Iff.rfl
  obtain ⟨front, ended⟩ := run_including task.manner found.catalog directory
    (select task.options.limit found.pages) alike
  refine ⟨front, fun complete => ⟨ended complete, ?_⟩⟩
  have all := (conversion_converted (task.including true) found directory disk).2 complete
  have some := (conversion_converted (task.including false) found directory disk).2
    (ended complete)
  rw [all, some, selected_including, List.filter_map]
  rfl

/-- In whatever order the pages of an export come, and wherever a limit cuts them off, each
that is converted has one and the same record. The pages come in the order of the export; a
limit keeps those that come from the front of it, and leaving the ignored ones out takes only
them away. -/
theorem conversion_of_perm {found found' : Export}
    (reordered : found'.pages.Perm found.pages) (task : Task) (directory : Place)
    (disk : Disk) :
    ((task.conversion found' directory disk).converted <+:
        (task.selected found').map (task.record found) ∧
      ((task.conversion found' directory disk).problem = none →
        (task.conversion found' directory disk).converted =
          (task.selected found').map (task.record found)) ∧
      (task.options.dryRun = true → (task.conversion found' directory disk).problem = none)) ∧
    (∀ count : Nat, ((task.limited (some count)).conversion found' directory disk).converted =
      ((task.limited none).conversion found' directory disk).converted.take
        ((found'.pages.take count).filter fun page =>
          task.options.includeIgnored || !page.space.isIgnored).length) ∧
    (((task.including true).conversion found' directory disk).converted.filter
        (!·.isIgnored) <+:
        ((task.including false).conversion found' directory disk).converted ∧
      (((task.including true).conversion found' directory disk).problem = none →
        ((task.including false).conversion found' directory disk).problem = none ∧
          ((task.including false).conversion found' directory disk).converted =
            ((task.including true).conversion found' directory disk).converted.filter
              (!·.isIgnored))) := by
  have same : task.record found' = task.record found := by
    funext page
    rw [Task.record, Task.record, catalog_of_perm reordered]
  obtain ⟨front, whole⟩ := conversion_converted task found' directory disk
  rw [same] at front whole
  refine ⟨⟨front, whole, fun dry => ?_⟩, conversion_limited task found' directory disk,
    conversion_including task found' directory disk⟩
  have dry' : task.manner.dryRun = true := dry
  exact problem_of_dryRun dry' _ disk

/-- A page that calls a template. -/
def callingPage : SourcePage :=
  { id := 1, namespaceNumber := 0, title := "A".toList
    text := some "\x7b\x7bTemplate:T\x7d\x7d".toList }

/-- A template. -/
def calledPage : SourcePage :=
  { id := 2, namespaceNumber := 10, title := "T".toList, text := none }

/-- An export with the call in front of the template. -/
def callFirst : Export := { pages := [callingPage, calledPage] }

/-- The same pages the other way round. -/
def callLast : Export := { pages := [calledPage, callingPage] }

/-- A task that converts the first page only, and writes nothing. -/
def firstPageTask : Task where
  options := { source := "e.xml".toList, dryRun := true, limit := some 1 }
  settings := {}
  source := ["e.xml".toList]
  output := ([], ["out".toList])

/-- A template that comes behind the limit is known as if it came first. -/
theorem conversion_of_perm_callFirst :
    callFirst.pages.Perm callLast.pages ∧
      (firstPageTask.conversion callFirst [] {}).converted =
        [firstPageTask.record callLast callingPage] ∧
      (firstPageTask.record callLast callingPage).text = "\x7bs:T\x7d".toList := by
  have reordered : callFirst.pages.Perm callLast.pages := List.Perm.swap _ _ _
  obtain ⟨⟨-, whole, ended⟩, -⟩ := conversion_of_perm reordered firstPageTask [] {}
  refine ⟨reordered, (whole (ended rfl)).trans ?_, ?_⟩
  · decide +kernel
  · decide +kernel

end DekiMigration.Program
