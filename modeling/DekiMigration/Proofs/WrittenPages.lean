/-
# Pages on the disk

A conversion writes every page into a file that is named after the page's title, and the
report into a file with a name of its own. Files of one name are one file, so a page is
found on the disk afterwards unless a later page, or the report, has put another text in
its place. That is the only way in which a page that counts as converted can be missing.
-/

import DekiMigration.Program
import DekiMigration.Proofs.ConvertedPages

namespace DekiMigration

open Text

namespace Conversion

/-- Between two states of the disk pages have been written: of the pages with one file name
the text of one is found, and other files are as they were. -/
structure IsWritten (directory : Place) (pages : List MigratedPage) (before after : Disk) :
    Prop where
  found : ∀ page ∈ pages, ∃ other ∈ pages, fileName other.title = fileName page.title ∧
    after.find? (directory ++ [fileName page.title]) = some (.file other.text)
  elsewhere : ∀ name, (∀ page ∈ pages, fileName page.title ≠ name) →
    after.find? (directory ++ [name]) = before.find? (directory ++ [name])

theorem isWritten_nil (directory : Place) (disk : Disk) : IsWritten directory [] disk disk where
  found := by simp
  elsewhere := by simp

/-- One more page in front is found unless a later one has its file name. -/
theorem IsWritten.cons {directory : Place} {page : MigratedPage} {pages : List MigratedPage}
    {before between after : Disk}
    (accepted : before.write directory (fileName page.title) page.text = .ok between)
    (written : IsWritten directory pages between after) :
    IsWritten directory (page :: pages) before after where
  found := by
    intro one listed
    by_cases later : ∃ other ∈ pages, fileName other.title = fileName one.title
    · obtain ⟨other, isLater, same⟩ := later
      obtain ⟨last, isLast, same', text_eq⟩ := written.found other isLater
      rw [same] at same' text_eq
      exact ⟨last, List.mem_cons_of_mem page isLast, same', text_eq⟩
    · have only : one = page := by
        rcases List.mem_cons.mp listed with here | isLater
        · exact here
        · exact absurd ⟨one, isLater, rfl⟩ later
      subst only
      refine ⟨one, List.mem_cons_self, rfl, ?_⟩
      rw [written.elsewhere _ fun other isLater same => later ⟨other, isLater, same⟩]
      exact Disk.find?_write_self accepted
  elsewhere := by
    intro name absent
    rw [written.elsewhere name fun other isLater =>
      absent other (List.mem_cons_of_mem page isLater)]
    exact Disk.find?_write_of_ne accepted (absent page List.mem_cons_self).symm

/-- With the report written last, every page is found exactly when nothing else has been
written into its file. -/
theorem IsWritten.found_iff {directory : Place} {pages : List MigratedPage}
    {before written after : Disk} (isWritten : IsWritten directory pages before written)
    (reported : written.write directory reportName (report pages) = .ok after) :
    (∀ page ∈ pages,
        after.find? (directory ++ [fileName page.title]) = some (.file page.text)) ↔
      (∀ page ∈ pages, ∀ other ∈ pages, fileName page.title = fileName other.title →
        page.text = other.text) ∧
      ∀ page ∈ pages, fileName page.title = reportName → page.text = report pages := by
  constructor
  · intro found
    constructor
    · intro page isPage other isOther same
      have found' := found other isOther
      rw [← same, found page isPage] at found'
      exact Entry.file.inj (Option.some.inj found')
    · intro page isPage same
      have found' := found page isPage
      rw [same, Disk.find?_write_self reported] at found'
      exact (Entry.file.inj (Option.some.inj found')).symm
  · rintro ⟨agree, agree'⟩ page isPage
    by_cases same : fileName page.title = reportName
    · rw [same, Disk.find?_write_self reported, agree' page isPage same]
    · obtain ⟨other, isOther, same', found⟩ := isWritten.found page isPage
      rw [Disk.find?_write_of_ne reported same, found, agree other isOther page isPage same']

theorem Result.exists_summary_eq (result : Result) :
    ∃ rest, result.summary false = '\n' :: ("Conversion complete: ".toList ++
      (ofNat result.converted.length ++ (" converted, ".toList ++ rest))) := by
  refine ⟨ofNat result.ignored ++ (" ignored, 0 errors, ".toList ++
    (ofNat result.unresolved ++ " unresolved magic words.\n".toList)), ?_⟩
  rw [summary, if_neg Bool.false_ne_true]
  simp only [List.cons_append, List.nil_append, List.append_assoc]

/-- A conversion that comes to its end has written every page that it keeps. -/
theorem run_written {manner : Manner} {catalog : Template.Catalog} {directory : Place}
    {pages : List SourcePage} {disk : Disk} (writes : manner.dryRun = false)
    (complete : (run manner catalog directory pages disk).problem = none) :
    (run manner catalog directory pages disk).converted = kept manner catalog pages ∧
      IsWritten directory (kept manner catalog pages) disk
        (run manner catalog directory pages disk).disk := by
  refine ⟨(run_converted manner catalog directory pages disk).2 complete, ?_⟩
  change (run manner catalog directory pages disk).outcome.problem = none at complete
  show IsWritten _ _ _ (run manner catalog directory pages disk).outcome.disk
  induction pages, disk using run_induction manner catalog directory with
  | nil disk => exact isWritten_nil directory disk
  | leftOut leftOut ih =>
      rw [outcome_of_leftOut leftOut] at complete ⊢
      rw [kept_cons_of_leftOut leftOut]
      exact ih complete
  | left included left ih =>
      rw [outcome_of_left included left] at complete ⊢
      rw [leave, writes, if_neg Bool.false_ne_true] at left
      rw [kept_cons_of_included included]
      exact (ih complete).cons left
  | refused included refused =>
      rw [outcome_of_refused included refused] at complete
      cases complete

/-- How many of so many pages a limit takes from the front: so many, or all but so many when it
is negative. -/
def quota (limit : Option Int) (total : Nat) : Nat :=
  match limit with
  | none => total
  | some (.ofNat count) => count
  | some (.negSucc count) => total - (count + 1)

theorem select_eq_take (limit : Option Int) (pages : List SourcePage) :
    select limit pages = pages.take (quota limit pages.length) := by
  cases limit with
  | none => exact List.take_length.symm
  | some limit => cases limit <;> rfl

end Conversion

namespace Program

open Conversion

/-- Where the pages of a task are written. -/
def Task.directory (task : Task) : Place :=
  Path.follow task.output.1 task.output.2

/-- The pages of an export that a task looks at. -/
def Task.taken (task : Task) (found : Export) : List SourcePage :=
  found.pages.take (quota task.options.limit found.pages.length)

theorem Task.conversion_eq (task : Task) (found : Export) (directory : Place) (disk : Disk) :
    task.conversion found directory disk =
      Conversion.run task.manner found.catalog directory (task.taken found) disk := by
  rw [Task.conversion, select_eq_take, Task.taken]

/-- The pages that a task converts. -/
def Task.converted (task : Task) (found : Export) : List MigratedPage :=
  kept task.manner found.catalog (task.taken found)

/-- What a conversion of a task goes through to its end: the directory is made, no page is
refused, and neither is the report. -/
structure Completes (task : Task) (found : Export) (disk between final : Disk) : Prop where
  made : disk.makeDirectories task.output.1 task.output.2 = .ok (between, task.directory)
  complete : (task.conversion found task.directory between).problem = none
  reported : (task.conversion found task.directory between).disk.write task.directory
    reportName (report (task.conversion found task.directory between).converted) = .ok final

section Completion

variable {task : Task} {found : Export} {disk between final : Disk} {output log : Text}

variable (output log) in
/-- A conversion that comes to its end leaves a report and its closing line. -/
theorem convert_of_completes (writes : task.options.dryRun = false)
    (completes : Completes task found disk between final) :
    (convert task disk found output log).ending = .exit 0 ∧
      (convert task disk found output log).disk = final ∧
      (convert task disk found output log).output =
        output ++ (task.conversion found task.directory between).output ++
          (task.conversion found task.directory between).summary false := by
  rw [convert]
  dsimp only
  rw [writes, if_neg Bool.false_ne_true, completes.made]
  dsimp only
  rw [completes.complete]
  dsimp only
  rw [if_neg Bool.false_ne_true, completes.reported]
  exact ⟨rfl, rfl, rfl⟩

/-- A conversion that ends normally has come to its end. -/
theorem exists_completes_of_ended (writes : task.options.dryRun = false)
    (ended : (convert task disk found output log).ending = .exit 0) :
    ∃ between final, Completes task found disk between final := by
  rw [convert] at ended
  dsimp only at ended
  rw [writes, if_neg Bool.false_ne_true] at ended
  cases made : disk.makeDirectories task.output.1 task.output.2 with
  | error refusal =>
      rw [made] at ended
      cases ended
  | ok reached =>
      obtain ⟨between, directory⟩ := reached
      rw [made] at ended
      have directory_eq : directory = task.directory := Disk.makeDirectories_place made
      subst directory_eq
      dsimp only at ended
      cases complete : (task.conversion found task.directory between).problem with
      | some refusal =>
          rw [complete] at ended
          cases ended
      | none =>
          rw [complete] at ended
          dsimp only at ended
          rw [if_neg Bool.false_ne_true] at ended
          cases reported : (task.conversion found task.directory between).disk.write
              task.directory reportName
              (report (task.conversion found task.directory between).converted) with
          | error refusal =>
              rw [reported] at ended
              cases ended
          | ok final => exact ⟨between, final, made, complete, reported⟩

/-- What has come to its end has written the pages of its task. -/
theorem Completes.written (completes : Completes task found disk between final)
    (writes : task.options.dryRun = false) :
    (task.conversion found task.directory between).converted = task.converted found ∧
      IsWritten task.directory (task.converted found) between
        (task.conversion found task.directory between).disk := by
  have writes' : task.manner.dryRun = false := writes
  have complete := completes.complete
  rw [task.conversion_eq] at complete ⊢
  exact run_written writes' complete

end Completion

/-- A conversion that ends normally has written its pages, and then its report, and has told
how many pages it has converted. -/
theorem convert_written {task : Task} {disk : Disk} {found : Export} {output log : Text}
    (writes : task.options.dryRun = false)
    (ended : (convert task disk found output log).ending = .exit 0) :
    (∃ made written, IsWritten task.directory (task.converted found) made written ∧
      written.write task.directory reportName (report (task.converted found)) =
        .ok (convert task disk found output log).disk) ∧
      ∃ told rest, (convert task disk found output log).output =
        told ++ ("Conversion complete: ".toList ++
          (ofNat (task.converted found).length ++ (" converted, ".toList ++ rest))) := by
  obtain ⟨between, final, completes⟩ := exists_completes_of_ended writes ended
  obtain ⟨-, disk_eq, output_eq⟩ := convert_of_completes output log writes completes
  obtain ⟨converted_eq, written⟩ := completes.written writes
  have reported := completes.reported
  obtain ⟨rest, summary_eq⟩ := (task.conversion found task.directory between).exists_summary_eq
  rw [converted_eq] at reported summary_eq
  rw [disk_eq, output_eq, summary_eq]
  refine ⟨⟨between, _, written, reported⟩,
    output ++ (task.conversion found task.directory between).output ++ ['\n'], rest, ?_⟩
  rw [List.append_assoc (output ++ _)]
  rfl

/-- What a run tells about an export before it converts the first page. -/
def Task.opening (task : Task) (found : Export) : Text :=
  "Parsing ".toList ++ Place.toText task.source ++ " …\n".toList ++ "Found ".toList ++
    ofNat found.pages.length ++ " pages in export.\nKnown templates: ".toList ++
    ofNat found.catalog.size ++ ['\n']

section Run

variable {surroundings : Surroundings} {disk : Disk} {arguments : List Text} {task : Task}
  {contents : Text}

/-- An export that can be read is converted. -/
theorem run_eq_convert (prepared : prepare surroundings disk arguments = .ok task)
    (exported : disk.find? task.source = some (.file contents))
    (readable : (Export.read contents).problem = none) :
    run surroundings disk arguments =
      convert task disk (Export.read contents) (task.opening (Export.read contents))
        (logLines task.threshold (Export.read contents).notices) := by
  rw [run, prepared]
  dsimp only
  rw [perform, exported]
  dsimp only
  rw [readable]
  rfl

/-- A run that ends normally has found an export that can be read. -/
theorem exists_export_of_ended (prepared : prepare surroundings disk arguments = .ok task)
    (ended : (run surroundings disk arguments).ending = .exit 0) :
    ∃ contents, disk.find? task.source = some (.file contents) ∧
      (Export.read contents).problem = none := by
  rw [run, prepared] at ended
  dsimp only at ended
  rw [perform] at ended
  dsimp only at ended
  split at ended
  · next contents exported =>
      refine ⟨contents, exported, ?_⟩
      cases readable : (Export.read contents).problem with
      | none => rfl
      | some problem =>
          rw [readable] at ended
          cases ended
  · cases ended

end Run

/-- A run that ends normally leaves every page that it counts as converted on the disk
exactly when pages with one file name have one text, and a page with the report's name has
the report's text. -/
theorem run_leaves_converted_iff {surroundings : Surroundings} {disk : Disk}
    {arguments : List Text} {task : Task} {contents : Text}
    (prepared : prepare surroundings disk arguments = .ok task)
    (writes : task.options.dryRun = false)
    (exported : disk.find? task.source = some (.file contents))
    (ended : (run surroundings disk arguments).ending = .exit 0) :
    (∃ told rest, (run surroundings disk arguments).output =
        told ++ ("Conversion complete: ".toList ++
          (ofNat (task.converted (Export.read contents)).length ++
            (" converted, ".toList ++ rest)))) ∧
      ((∀ page ∈ task.converted (Export.read contents),
          (run surroundings disk arguments).disk.find?
            (task.directory ++ [fileName page.title]) = some (.file page.text)) ↔
        (∀ page ∈ task.converted (Export.read contents),
          ∀ other ∈ task.converted (Export.read contents),
            fileName page.title = fileName other.title → page.text = other.text) ∧
        ∀ page ∈ task.converted (Export.read contents), fileName page.title = reportName →
          page.text = report (task.converted (Export.read contents))) := by
  have performed : run surroundings disk arguments = perform task disk := by
    rw [run, prepared]
  rw [performed] at ended ⊢
  rw [perform, exported] at ended ⊢
  dsimp only at ended ⊢
  cases readable : (Export.read contents).problem with
  | some problem =>
      rw [readable] at ended
      cases ended
  | none =>
      rw [readable] at ended
      dsimp only at ended ⊢
      obtain ⟨⟨made, written, pages, accepted⟩, told⟩ := convert_written writes ended
      exact ⟨told, pages.found_iff accepted⟩

/-- An export of pages of the main namespace, each with a title and a text. -/
def exportOf (pages : List (String × String)) : Text :=
  "<w>".toList ++ (pages.flatMap fun (title, text) =>
    "<page><title>".toList ++ title.toList ++ "</title><ns>0</ns><revision><text>".toList ++
      text.toList ++ "</text></revision></page>".toList) ++ "</w>".toList

/-- A disk with an export and nothing else. -/
def exportDisk (document : Text) : Disk :=
  ⟨[(["e.xml".toList], .file document)]⟩

/-- A program that is run at the root, without settings. -/
def bareSurroundings : Surroundings :=
  { environment := [], whereabouts := ⟨[], []⟩ }

/-- The words that ask for the export to be converted into a new directory. -/
def exportArguments : List Text :=
  ["e.xml".toList, "--output".toList, "out".toList]

/-- Two pages with file names of their own are both left, slash and all. -/
theorem run_leaves_converted_two :
    ∃ task, prepare bareSurroundings (exportDisk (exportOf [("A", "a"), ("B/C", "b")]))
        exportArguments = .ok task ∧
      task.options.dryRun = false ∧
      (run bareSurroundings (exportDisk (exportOf [("A", "a"), ("B/C", "b")]))
        exportArguments).ending = .exit 0 ∧
      ∀ page ∈ task.converted (Export.read (exportOf [("A", "a"), ("B/C", "b")])),
        (run bareSurroundings (exportDisk (exportOf [("A", "a"), ("B/C", "b")]))
          exportArguments).disk.find? (task.directory ++ [fileName page.title]) =
            some (.file page.text) := by
  generalize document_eq : exportOf [("A", "a"), ("B/C", "b")] = document
  have checked : (prepare bareSurroundings (exportDisk document) exportArguments).toOption.any
      (fun task => task.options.dryRun = false ∧
        (exportDisk document).find? task.source = some (.file document) ∧
        (∀ page ∈ task.converted (Export.read document),
          ∀ other ∈ task.converted (Export.read document),
            fileName page.title = fileName other.title → page.text = other.text) ∧
        ∀ page ∈ task.converted (Export.read document), fileName page.title ≠ reportName) := by
    rw [← document_eq]
    decide +kernel
  have ended : (run bareSurroundings (exportDisk document) exportArguments).ending = .exit 0 := by
    rw [← document_eq]
    decide +kernel
  cases prepared : prepare bareSurroundings (exportDisk document) exportArguments with
  | error refusal =>
      rw [prepared] at checked
      cases checked
  | ok task =>
      rw [prepared] at checked
      obtain ⟨writes, exported, agree, unreported⟩ := of_decide_eq_true checked
      refine ⟨task, rfl, writes, ended, ?_⟩
      apply (run_leaves_converted_iff prepared writes exported ended).2.mpr
      exact ⟨agree, fun page isPage same => absurd same (unreported page isPage)⟩

/-- A page that is named as the report is counted and lost. -/
theorem run_loses_page_named_as_report :
    ∃ task, prepare bareSurroundings (exportDisk (exportOf [("magic_words", "x")]))
        exportArguments = .ok task ∧
      task.options.dryRun = false ∧
      (run bareSurroundings (exportDisk (exportOf [("magic_words", "x")]))
        exportArguments).ending = .exit 0 ∧
      ∃ page ∈ task.converted (Export.read (exportOf [("magic_words", "x")])),
        (run bareSurroundings (exportDisk (exportOf [("magic_words", "x")]))
          exportArguments).disk.find? (task.directory ++ [fileName page.title]) ≠
            some (.file page.text) := by
  generalize document_eq : exportOf [("magic_words", "x")] = document
  have checked : (prepare bareSurroundings (exportDisk document) exportArguments).toOption.any
      (fun task => task.options.dryRun = false ∧
        (run bareSurroundings (exportDisk document) exportArguments).ending = .exit 0 ∧
        ∃ page ∈ task.converted (Export.read document),
          (run bareSurroundings (exportDisk document) exportArguments).disk.find?
            (task.directory ++ [fileName page.title]) ≠ some (.file page.text)) := by
    rw [← document_eq]
    decide +kernel
  cases prepared : prepare bareSurroundings (exportDisk document) exportArguments with
  | error refusal =>
      rw [prepared] at checked
      cases checked
  | ok task =>
      rw [prepared] at checked
      obtain ⟨writes, ended, page, isPage, lost⟩ := of_decide_eq_true checked
      exact ⟨task, rfl, writes, ended, page, isPage, lost⟩

end Program

end DekiMigration
