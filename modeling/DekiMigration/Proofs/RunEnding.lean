/-
# How a run ends

A conversion writes page by page, and what the disk refuses ends it. Into a directory that is
empty a file is refused for nothing but the length of its name. So a run comes to its end
exactly when every page that it converts has a name that is short enough, and otherwise the
first page with a name too long is the last that is looked at: those before it are on the
disk, those behind it are not, and there is no report.
-/

import DekiMigration.Proofs.ExportReading
import DekiMigration.Proofs.WrittenPages

namespace DekiMigration

open Text

namespace Disk

/-- A directory with nothing in it takes every name that is short enough. -/
theorem accepts_of_vacant {disk : Disk} {directory : Place}
    (vacant : ∀ name, disk.find? (directory ++ [name]) = none) (name : Text) :
    disk.Accepts directory name ↔ isTooLong name = false := by
  rw [Accepts, vacant name]
  exact and_iff_left (Option.some_ne_none _).symm

/-- There is nothing in a directory when no entry of the disk is right below it. -/
theorem find?_eq_none_of_entries {disk : Disk} {directory : Place}
    (elsewhere : ∀ entry ∈ disk.entries, entry.1.dropLast ≠ directory) (name : Text) :
    disk.find? (directory ++ [name]) = none := by
  rw [find?_eq_lookup (by simp), List.lookup_eq_none_iff]
  intro entry isEntry
  rw [bne_iff_ne]
  intro same
  apply elsewhere entry isEntry
  rw [← same, List.dropLast_concat]

end Disk

namespace Conversion

/-- The last lines of a conversion with so many pages converted, left out and refused. -/
def closing (converted ignored errors unresolved : Nat) : Text :=
  "\nConversion complete: ".toList ++ ofNat converted ++ " converted, ".toList ++
    ofNat ignored ++ " ignored, ".toList ++ ofNat errors ++ " errors, ".toList ++
    ofNat unresolved ++ " unresolved magic words.\n".toList

/-- A conversion never tells of a page that has been refused. -/
theorem Result.summary_eq_closing (result : Result) :
    result.summary false =
      closing result.converted.length result.ignored 0 result.unresolved := by
  have front : "\nConversion complete: ".toList = '\n' :: "Conversion complete: ".toList := rfl
  have middle : " ignored, 0 errors, ".toList =
      " ignored, ".toList ++ (ofNat 0 ++ " errors, ".toList) := by
    have zero : ofNat 0 = "0".toList := Nat.toDigits_of_lt_base (by decide)
    rw [zero]
    rfl
  -- folded, the two sides are compared letter by letter
  unfold summary closing
  rw [front, middle, if_neg Bool.false_ne_true]
  simp only [List.append_assoc, List.cons_append, List.nil_append]

/-- The name of a page's file is short enough. -/
def fits (page : MigratedPage) : Bool :=
  !Disk.isTooLong (fileName page.title)

theorem fits_iff {page : MigratedPage} :
    fits page = true ↔ Disk.isTooLong (fileName page.title) = false := by
  rw [fits, Bool.not_eq_true']

theorem isTooLong_reportName : Disk.isTooLong reportName = false := by
  decide

variable {manner : Manner} {catalog : Template.Catalog} {directory : Place}
  {pages : List SourcePage} {disk : Disk}

/-- What a run that writes leaves of a page is a file. -/
theorem leave_of_writes (writes : manner.dryRun = false) (page : MigratedPage) (disk : Disk) :
    leave manner directory page disk =
      disk.write directory (fileName page.title) page.text := by
  rw [leave, writes, if_neg Bool.false_ne_true]

/-- Where pages have been written, what could be written before still can. -/
theorem IsWritten.accepts {written : List MigratedPage} {before after : Disk} {name : Text}
    (isWritten : IsWritten directory written before after)
    (accepted : before.Accepts directory name) : after.Accepts directory name := by
  refine ⟨accepted.1, ?_⟩
  by_cases named : ∃ page ∈ written, fileName page.title = name
  · obtain ⟨page, isPage, rfl⟩ := named
    obtain ⟨other, -, -, text_eq⟩ := isWritten.found page isPage
    rw [text_eq]
    exact fun isDirectory => Entry.noConfusion (Option.some.inj isDirectory)
  · rw [isWritten.elsewhere name fun page isPage same => named ⟨page, isPage, same⟩]
    exact accepted.2

/-- A run comes to its end when every page can be written. -/
theorem problem_eq_none_of_accepts (writes : manner.dryRun = false)
    (accepted : ∀ page ∈ kept manner catalog pages,
      disk.Accepts directory (fileName page.title)) :
    (run manner catalog directory pages disk).outcome.problem = none := by
  induction pages, disk using run_induction manner catalog directory with
  | nil disk => rfl
  | leftOut leftOut ih =>
      rw [kept_cons_of_leftOut leftOut] at accepted
      rw [outcome_of_leftOut leftOut]
      exact ih accepted
  | left included left ih =>
      rw [kept_cons_of_included included, List.forall_mem_cons] at accepted
      rw [outcome_of_left included left]
      rw [leave_of_writes writes] at left
      exact ih fun page isLater => (Disk.accepts_write left _).mpr (accepted.2 page isLater)
  | refused included refused =>
      rw [kept_cons_of_included included, List.forall_mem_cons] at accepted
      obtain ⟨written, left⟩ := (Disk.accepts_iff _).mp accepted.1
      rw [leave_of_writes writes, left] at refused
      cases refused

/-- The first page whose name is too long ends a run. The pages before it are on the disk, and
no other file has changed. -/
theorem run_stops {front later : List MigratedPage} {page : MigratedPage}
    (writes : manner.dryRun = false)
    (kept_eq : kept manner catalog pages = front ++ page :: later)
    (accepted : ∀ other ∈ front, disk.Accepts directory (fileName other.title))
    (long : Disk.isTooLong (fileName page.title) = true) :
    (run manner catalog directory pages disk).outcome.problem = some .nameTooLong ∧
      IsWritten directory front disk (run manner catalog directory pages disk).outcome.disk := by
  induction pages, disk using run_induction manner catalog directory generalizing front with
  | nil disk => simp [kept] at kept_eq
  | leftOut leftOut ih =>
      rw [kept_cons_of_leftOut leftOut] at kept_eq
      rw [outcome_of_leftOut leftOut]
      exact ih kept_eq accepted
  | left included left ih =>
      rw [outcome_of_left included left]
      rw [leave_of_writes writes] at left
      rw [kept_cons_of_included included] at kept_eq
      cases front with
      | nil =>
          obtain ⟨rfl, -⟩ := List.cons_eq_cons.mp kept_eq
          rw [Disk.write, if_pos long] at left
          cases left
      | cons first front =>
          obtain ⟨rfl, rest_eq⟩ := List.cons_eq_cons.mp kept_eq
          obtain ⟨problem, written⟩ := ih rest_eq fun other isFront =>
            (Disk.accepts_write left _).mpr (accepted other (List.mem_cons_of_mem _ isFront))
          exact ⟨problem, written.cons left⟩
  | refused included refused =>
      rw [outcome_of_refused included refused]
      rw [leave_of_writes writes] at refused
      rw [kept_cons_of_included included] at kept_eq
      cases front with
      | nil =>
          obtain ⟨rfl, -⟩ := List.cons_eq_cons.mp kept_eq
          rw [Disk.write, if_pos long] at refused
          cases refused
          exact ⟨rfl, isWritten_nil directory _⟩
      | cons first front =>
          obtain ⟨rfl, -⟩ := List.cons_eq_cons.mp kept_eq
          obtain ⟨written, left⟩ := (Disk.accepts_iff _).mp (accepted _ List.mem_cons_self)
          rw [left] at refused
          cases refused

/-- A run that comes to its end has converted or left out every page. -/
theorem run_counts (complete : (run manner catalog directory pages disk).problem = none) :
    (run manner catalog directory pages disk).converted.length +
      (run manner catalog directory pages disk).ignored = pages.length := by
  fun_induction run manner catalog directory pages disk with
  | case1 disk => rfl
  | case2 page later disk migrated log leftOut rest ih =>
      have counted : rest.converted.length + rest.ignored = later.length := ih complete
      show rest.converted.length + (rest.ignored + 1) = later.length + 1
      omega
  | case3 page later disk migrated log included dry rest ih =>
      have counted : rest.converted.length + rest.ignored = later.length := ih complete
      show rest.converted.length + 1 + rest.ignored = later.length + 1
      omega
  | case4 page later disk migrated log included writes between left rest ih =>
      have counted : rest.converted.length + rest.ignored = later.length := ih complete
      show rest.converted.length + 1 + rest.ignored = later.length + 1
      omega
  | case5 page later disk migrated log included writes problem refused => cases complete

end Conversion

namespace Program

open Conversion

/-- The pages of a task with a name that is too long. -/
def Task.misfits (task : Task) (found : Export) : List MigratedPage :=
  (task.converted found).filter (!fits ·)

/-- The pages of a task before the first with a name that is too long. -/
def Task.leading (task : Task) (found : Export) : List MigratedPage :=
  (task.converted found).takeWhile fits

/-- A run that goes through: it ends normally, its closing line accounts for every page that
was selected, there is a report, and each page with a name short enough has its file. -/
structure GoesThrough (task : Task) (found : Export) (run : Run) : Prop where
  ended : run.ending = .exit 0
  counted : ∃ told converted ignored unresolved,
    run.output = told ++ closing converted ignored (task.misfits found).length unresolved ∧
      converted + ignored + (task.misfits found).length =
        (found.pages.take (quota task.options.limit found.pages.length)).length
  reported : ∃ text, run.disk.find? (task.directory ++ [reportName]) = some (.file text)
  written : ∀ page ∈ task.converted found, fits page = true →
    fileName page.title ≠ reportName →
      ∃ other ∈ task.converted found, fileName other.title = fileName page.title ∧
        run.disk.find? (task.directory ++ [fileName page.title]) = some (.file other.text)

/-- A run that breaks off behind some pages: these have their files, and nothing else is in
the directory. -/
structure BreaksOff (task : Task) (front : List MigratedPage) (run : Run) : Prop where
  ended : run.ending = .failure (.disk .nameTooLong)
  written : ∀ page ∈ front, ∃ other ∈ front, fileName other.title = fileName page.title ∧
    run.disk.find? (task.directory ++ [fileName page.title]) = some (.file other.text)
  absent : ∀ name, (∀ page ∈ front, fileName page.title ≠ name) →
    run.disk.find? (task.directory ++ [name]) = none

variable {task : Task} {found : Export} {disk between : Disk} {output log : Text}

/-- A conversion that breaks off ends the run for the same reason. -/
theorem convert_of_problem {refusal : Disk.Refusal} (writes : task.options.dryRun = false)
    (made : disk.makeDirectories task.output.1 task.output.2 = .ok (between, task.directory))
    (broken : (task.conversion found task.directory between).problem = some refusal) :
    (convert task disk found output log).ending = .failure (.disk refusal) ∧
      (convert task disk found output log).disk =
        (task.conversion found task.directory between).disk := by
  rw [convert]
  dsimp only
  rw [writes, if_neg Bool.false_ne_true, made]
  dsimp only
  rw [broken]
  exact ⟨rfl, rfl⟩

/-- With names that are short enough, a conversion into an empty directory goes through. -/
theorem convert_goesThrough (writes : task.options.dryRun = false)
    (made : disk.makeDirectories task.output.1 task.output.2 = .ok (between, task.directory))
    (vacant : ∀ name, between.find? (task.directory ++ [name]) = none)
    (fitting : task.misfits found = []) :
    GoesThrough task found (convert task disk found output log) := by
  have writes' : task.manner.dryRun = false := writes
  have accepted : ∀ page ∈ kept task.manner found.catalog (task.taken found),
      between.Accepts task.directory (fileName page.title) := by
    intro page isPage
    rw [Disk.accepts_of_vacant vacant, ← fits_iff]
    have fit := List.filter_eq_nil_iff.mp fitting page isPage
    simpa using fit
  have complete := problem_eq_none_of_accepts writes' accepted
  obtain ⟨converted_eq, written⟩ := run_written writes' complete
  have counts := run_counts complete
  rw [← task.conversion_eq] at complete converted_eq written counts
  have takesReport := written.accepts
    ((Disk.accepts_of_vacant vacant reportName).mpr isTooLong_reportName)
  obtain ⟨final, reported⟩ := (Disk.accepts_iff
    (report (task.conversion found task.directory between).converted)).mp takesReport
  obtain ⟨ended, disk_eq, output_eq⟩ :=
    convert_of_completes output log writes ⟨made, complete, reported⟩
  rw [Result.summary_eq_closing] at output_eq
  constructor
  case ended => exact ended
  case counted =>
    rw [fitting]
    exact ⟨_, _, _, _, output_eq, counts⟩
  case reported =>
    rw [disk_eq]
    exact ⟨_, Disk.find?_write_self reported⟩
  case written =>
    intro page isPage fit other
    rw [disk_eq, Disk.find?_write_of_ne reported other]
    exact written.found page isPage

/-- A conversion into an empty directory breaks off at the first name that is too long. -/
theorem convert_breaksOff (writes : task.options.dryRun = false)
    (made : disk.makeDirectories task.output.1 task.output.2 = .ok (between, task.directory))
    (vacant : ∀ name, between.find? (task.directory ++ [name]) = none)
    (unfit : task.misfits found ≠ []) :
    BreaksOff task (task.leading found) (convert task disk found output log) := by
  obtain ⟨page, later, split_eq, long⟩ : ∃ page later,
      task.converted found = task.leading found ++ page :: later ∧ fits page = false := by
    cases behind : (task.converted found).dropWhile fits with
    | nil =>
        have fitting := List.dropWhile_eq_nil_iff.mp behind
        refine absurd (List.filter_eq_nil_iff.mpr ?_) unfit
        intro page isPage
        simpa using fitting page isPage
    | cons page later =>
        have long := List.head?_dropWhile_not fits (task.converted found)
        rw [behind] at long
        refine ⟨page, later, ?_, long⟩
        rw [Task.leading, ← behind, List.takeWhile_append_dropWhile]
  have accepted : ∀ other ∈ task.leading found,
      between.Accepts task.directory (fileName other.title) := by
    intro other isFront
    rw [Disk.accepts_of_vacant vacant, ← fits_iff]
    exact List.mem_takeWhile_imp isFront
  have writes' : task.manner.dryRun = false := writes
  rw [fits, Bool.not_eq_false'] at long
  obtain ⟨broken, written⟩ := run_stops writes' split_eq accepted long
  rw [← task.conversion_eq] at broken written
  obtain ⟨ended, disk_eq⟩ := convert_of_problem writes made broken
  exact ⟨ended, disk_eq ▸ written.found, fun name other => by
    rw [disk_eq]
    exact (written.elsewhere name other).trans (vacant name)⟩

section Run

variable {surroundings : Surroundings} {arguments : List Text} {contents : Text}

/-- An export that cannot be read ends the run before anything is converted. -/
theorem ending_of_unreadable {problem : Export.Problem}
    (prepared : prepare surroundings disk arguments = .ok task)
    (exported : disk.find? task.source = some (.file contents))
    (unreadable : (Export.read contents).problem = some problem) :
    (run surroundings disk arguments).ending = .failure (.unreadableExport problem) := by
  rw [run, prepared]
  dsimp only
  rw [perform, exported]
  dsimp only
  rw [unreadable]

/-- A run over a well-formed export with plain numbers, into an empty directory, goes through
exactly when no number has too many digits and no page a name that is too long. With short
numbers it otherwise breaks off at the first such page. -/
theorem run_goesThrough_iff (prepared : prepare surroundings disk arguments = .ok task)
    (writes : task.options.dryRun = false)
    (exported : disk.find? task.source = some (.file contents))
    (wellFormed : (Xml.read contents).isWellFormed = true)
    (plain : ∀ page ∈ Export.pageElements contents, Export.HasPlainNumbers page)
    (made : disk.makeDirectories task.output.1 task.output.2 = .ok (between, task.directory))
    (vacant : ∀ name, between.find? (task.directory ++ [name]) = none) :
    (GoesThrough task (Export.read contents) (run surroundings disk arguments) ↔
      (∀ page ∈ Export.pageElements contents, Export.HasShortNumbers page) ∧
        task.misfits (Export.read contents) = []) ∧
    ((∀ page ∈ Export.pageElements contents, Export.HasShortNumbers page) →
      task.misfits (Export.read contents) ≠ [] →
        BreaksOff task (task.leading (Export.read contents))
          (run surroundings disk arguments)) := by
  have readable : (Export.read contents).problem = none ↔
      ∀ page ∈ Export.pageElements contents, Export.HasShortNumbers page := by
    rw [Export.problem_read_eq_none, and_iff_right wellFormed]
    exact forall₂_congr fun page isPage => (plain page isPage).isOk_pageOf_iff
  rw [← readable]
  have breaksOff (read : (Export.read contents).problem = none)
      (unfit : task.misfits (Export.read contents) ≠ []) :
      BreaksOff task (task.leading (Export.read contents))
        (run surroundings disk arguments) := by
    rw [run_eq_convert prepared exported read]
    exact convert_breaksOff writes made vacant unfit
  refine ⟨⟨fun through => ?_, fun ⟨read, fitting⟩ => ?_⟩, breaksOff⟩
  · cases problem : (Export.read contents).problem with
    | some problem =>
        have ended := through.ended
        rw [ending_of_unreadable prepared exported problem] at ended
        cases ended
    | none =>
        refine ⟨rfl, by_contra fun unfit => ?_⟩
        have ended := through.ended
        rw [(breaksOff problem unfit).ended] at ended
        cases ended
  · rw [run_eq_convert prepared exported read]
    exact convert_goesThrough writes made vacant fitting

end Run

/-- Two pages, the first with a title of so many letters. -/
def longTitleExport (letters : Nat) : Text :=
  "<w><page><title>".toList ++ List.replicate letters 'a' ++
    "</title><ns>0</ns><revision><text>x</text></revision></page>".toList ++
    "<page><title>B</title><ns>0</ns><revision><text>b</text></revision></page></w>".toList

/-- A task that writes an export into a directory with nothing in it, as far as this can be
found out by running. -/
theorem exists_ready_task (document : Text) (arguments : List Text) (holds : Task → Prop)
    [DecidablePred holds]
    (checked : (prepare bareSurroundings (exportDisk document) arguments).toOption.any
      fun task => task.options.dryRun = false ∧
        (exportDisk document).find? task.source = some (.file document) ∧ holds task ∧
        ((exportDisk document).makeDirectories task.output.1 task.output.2).toOption.any
          fun made => made.2 = task.directory ∧
            ∀ entry ∈ made.1.entries, entry.1.dropLast ≠ task.directory) :
    ∃ task between, prepare bareSurroundings (exportDisk document) arguments = .ok task ∧
      task.options.dryRun = false ∧
      (exportDisk document).find? task.source = some (.file document) ∧ holds task ∧
      (exportDisk document).makeDirectories task.output.1 task.output.2 =
        .ok (between, task.directory) ∧
      ∀ name, between.find? (task.directory ++ [name]) = none := by
  cases prepared : prepare bareSurroundings (exportDisk document) arguments with
  | error ended =>
      rw [prepared] at checked
      cases checked
  | ok task =>
      rw [prepared] at checked
      obtain ⟨writes, exported, checked, reached⟩ := of_decide_eq_true checked
      cases made : (exportDisk document).makeDirectories task.output.1 task.output.2 with
      | error refusal =>
          rw [made] at reached
          cases reached
      | ok pair =>
          obtain ⟨between, directory⟩ := pair
          rw [made] at reached
          obtain ⟨rfl, elsewhere⟩ := of_decide_eq_true reached
          exact ⟨task, between, rfl, writes, exported, checked, made,
            Disk.find?_eq_none_of_entries elsewhere⟩

/-- With the longest title that makes a name, the run goes through. -/
theorem run_goesThrough_longest :
    ∃ task, prepare bareSurroundings (exportDisk (longTitleExport 251)) exportArguments =
        .ok task ∧
      (task.converted (Export.read (longTitleExport 251))).length = 2 ∧
      GoesThrough task (Export.read (longTitleExport 251))
        (run bareSurroundings (exportDisk (longTitleExport 251)) exportArguments) := by
  generalize document_eq : longTitleExport 251 = document
  obtain ⟨wellFormed, numbers⟩ : (Xml.read document).isWellFormed = true ∧
      ∀ page ∈ Export.pageElements document,
        Export.HasPlainNumbers page ∧ Export.HasShortNumbers page := by
    rw [← document_eq]
    decide +kernel
  obtain ⟨task, between, prepared, writes, exported, ⟨fitting, two⟩, made, vacant⟩ :=
    exists_ready_task document exportArguments
      (fun task => task.misfits (Export.read document) = [] ∧
        (task.converted (Export.read document)).length = 2) (by
          rw [← document_eq]
          decide +kernel)
  refine ⟨task, prepared, two, ?_⟩
  apply (run_goesThrough_iff prepared writes exported wellFormed
    (fun page isPage => (numbers page isPage).1) made vacant).1.mpr
  exact ⟨fun page isPage => (numbers page isPage).2, fitting⟩

/-- One letter more ends the run, and the page behind is not written. -/
theorem run_breaksOff_tooLong :
    ∃ task between, prepare bareSurroundings (exportDisk (longTitleExport 252))
        exportArguments = .ok task ∧
      task.options.dryRun = false ∧
      (exportDisk (longTitleExport 252)).find? task.source =
        some (.file (longTitleExport 252)) ∧
      (Xml.read (longTitleExport 252)).isWellFormed = true ∧
      (∀ page ∈ Export.pageElements (longTitleExport 252), Export.HasPlainNumbers page) ∧
      (exportDisk (longTitleExport 252)).makeDirectories task.output.1 task.output.2 =
        .ok (between, task.directory) ∧
      (∀ name, between.find? (task.directory ++ [name]) = none) ∧
      ¬ GoesThrough task (Export.read (longTitleExport 252))
        (run bareSurroundings (exportDisk (longTitleExport 252)) exportArguments) ∧
      (run bareSurroundings (exportDisk (longTitleExport 252)) exportArguments).disk.find?
        (task.directory ++ ["B.txt".toList]) = none := by
  generalize document_eq : longTitleExport 252 = document
  obtain ⟨wellFormed, plain⟩ : (Xml.read document).isWellFormed = true ∧
      ∀ page ∈ Export.pageElements document, Export.HasPlainNumbers page := by
    rw [← document_eq]
    decide +kernel
  obtain ⟨task, between, prepared, writes, exported, ⟨ended, absent⟩, made, vacant⟩ :=
    exists_ready_task document exportArguments
      (fun task => (run bareSurroundings (exportDisk document) exportArguments).ending ≠
          .exit 0 ∧
        (run bareSurroundings (exportDisk document) exportArguments).disk.find?
          (task.directory ++ ["B.txt".toList]) = none) (by
            rw [← document_eq]
            decide +kernel)
  exact ⟨task, between, prepared, writes, exported, wellFormed, plain, made, vacant,
    fun through => ended through.ended, absent⟩

end Program

end DekiMigration
