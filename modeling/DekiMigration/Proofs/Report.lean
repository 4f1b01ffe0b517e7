/-
# The report on unresolved calls

The report is written to be read line by line: each unresolved call has a line with the title
of its page and the name that is called, and the last line of a run tells how many there are.
Lines are closed by line feeds, and nothing keeps a line feed out of a title or a name, since
a call may run over several lines. So the report can be read back exactly when no title and no
name in it holds one.
-/

import DekiMigration.Proofs.RunEnding
import DekiMigration.Proofs.Text.Lines

namespace DekiMigration

open Text

namespace Conversion

/-- What the report has to say, call by call. -/
def entries (pages : List MigratedPage) : List Text :=
  pages.flatMap fun page => page.magicWords.map fun name => page.title ++ ": ".toList ++ name

theorem report_eq (pages : List MigratedPage) : report pages = closeLines (entries pages) := by
  rw [report, closeLines, entries, List.flatMap_assoc]
  simp only [List.flatMap_map]

theorem length_entries (pages : List MigratedPage) :
    (entries pages).length = (pages.flatMap (·.magicWords)).length := by
  simp only [entries, List.length_flatMap, List.length_map]

theorem inline_entries_iff {pages : List MigratedPage} :
    (∀ entry ∈ entries pages, '\n' ∉ entry) ↔
      ∀ page ∈ pages, ∀ name ∈ page.magicWords, '\n' ∉ page.title ∧ '\n' ∉ name := by
  simp only [entries, List.forall_mem_flatMap, List.forall_mem_map, List.mem_append, not_or]
  exact forall₂_congr fun page _ => forall₂_congr fun name _ =>
    and_congr_left fun _ => and_iff_left (by decide)

/-- A text lists the unresolved calls of pages: it has a line for each, and as many lines as
have been counted. -/
structure ListsCalls (pages : List MigratedPage) (text : Text) (counted : Nat) : Prop where
  lines_eq : lines text = entries pages ++ [[]]
  count_eq : text.count '\n' = counted

theorem listsCalls_report_iff {pages : List MigratedPage} :
    ListsCalls pages (report pages) (entries pages).length ↔
      ∀ page ∈ pages, ∀ name ∈ page.magicWords, '\n' ∉ page.title ∧ '\n' ∉ name := by
  rw [← inline_entries_iff, report_eq]
  constructor
  · rintro ⟨lines_eq, -⟩
    exact lines_closeLines.mp lines_eq
  · intro inline
    exact ⟨lines_closeLines.mpr inline, count_closeLines.mpr inline⟩

/-- A conversion that writes tells nothing about its pages. -/
theorem output_of_writes {manner : Manner} {catalog : Template.Catalog} {directory : Place}
    {pages : List SourcePage} {disk : Disk} (writes : manner.dryRun = false) :
    (run manner catalog directory pages disk).output = [] := by
  fun_induction run manner catalog directory pages disk with
  | case1 disk => rfl
  | case2 page later disk migrated log leftOut rest ih => exact ih
  | case3 page later disk migrated log included dry rest ih =>
      rw [writes] at dry
      cases dry
  | case4 page later disk migrated log included writing between left rest ih => exact ih
  | case5 page later disk migrated log included writing problem refused => rfl

end Conversion

namespace Program

open Conversion

/-- A conversion that writes and ends normally tells nothing but its closing lines, which
account for all pages and calls, and leaves the report. -/
theorem convert_of_ended {task : Task} {found : Export} {disk : Disk} {output log : Text}
    (writes : task.options.dryRun = false)
    (ended : (convert task disk found output log).ending = .exit 0) :
    ∃ ignored, (task.converted found).length + ignored = (task.taken found).length ∧
      (convert task disk found output log).output =
        output ++ closing (task.converted found).length ignored 0
          (entries (task.converted found)).length ∧
      (convert task disk found output log).disk.find? (task.directory ++ [reportName]) =
        some (.file (report (task.converted found))) := by
  obtain ⟨between, final, completes⟩ := exists_completes_of_ended writes ended
  obtain ⟨-, disk_eq, output_eq⟩ := convert_of_completes output log writes completes
  have converted_eq := (completes.written writes).1
  have reported := completes.reported
  have complete := completes.complete
  rw [task.conversion_eq] at complete
  have counts := run_counts complete
  have silent : (task.conversion found task.directory between).output = [] :=
    output_of_writes writes
  rw [← task.conversion_eq, converted_eq] at counts
  rw [converted_eq] at reported
  rw [silent, List.append_nil, Result.summary_eq_closing, Result.unresolved, converted_eq,
    ← length_entries] at output_eq
  rw [disk_eq]
  exact ⟨_, counts, output_eq, Disk.find?_write_self reported⟩

/-- A run that writes and ends normally counts the unresolved calls in its closing lines and
leaves a report. The report lists them exactly when no line feed is in the name of one or in
the title of a page that has one. -/
theorem run_report_iff {surroundings : Surroundings} {disk : Disk} {arguments : List Text}
    {task : Task} {contents : Text}
    (prepared : prepare surroundings disk arguments = .ok task)
    (writes : task.options.dryRun = false)
    (exported : disk.find? task.source = some (.file contents))
    (ended : (run surroundings disk arguments).ending = .exit 0) :
    ∃ ignored text,
      (run surroundings disk arguments).output =
        task.opening (Export.read contents) ++
          closing (task.converted (Export.read contents)).length ignored 0
            (entries (task.converted (Export.read contents))).length ∧
      (run surroundings disk arguments).disk.find? (task.directory ++ [reportName]) =
        some (.file text) ∧
      (ListsCalls (task.converted (Export.read contents)) text
          (entries (task.converted (Export.read contents))).length ↔
        ∀ page ∈ task.converted (Export.read contents), ∀ name ∈ page.magicWords,
          '\n' ∉ page.title ∧ '\n' ∉ name) := by
  obtain ⟨contents', exported', readable⟩ := exists_export_of_ended prepared ended
  rw [exported, Option.some.injEq, Entry.file.injEq] at exported'
  subst exported'
  rw [run_eq_convert prepared exported readable] at ended ⊢
  obtain ⟨ignored, -, output_eq, reported⟩ := convert_of_ended writes ended
  exact ⟨ignored, _, output_eq, reported, listsCalls_report_iff⟩

/-- Two pages that call what no template answers, one of the names twice. -/
def repeatedCallExport : Text :=
  exportOf [("A", "\x7b\x7bx\x7d\x7d \x7b\x7by z\x7d\x7d"), ("B", "\x7b\x7bx\x7d\x7d")]

/-- Calls are listed page by page, and one that comes again is listed again. -/
theorem run_report_repeatedCall :
    ∃ task text, prepare bareSurroundings (exportDisk repeatedCallExport) exportArguments =
        .ok task ∧
      (run bareSurroundings (exportDisk repeatedCallExport) exportArguments).disk.find?
        (task.directory ++ [reportName]) = some (.file text) ∧
      lines text = ["A: x".toList, "A: y_z".toList, "B: x".toList, []] := by
  generalize document_eq : repeatedCallExport = document
  obtain ⟨task, between, prepared, writes, exported, ⟨ended, entries_eq⟩, -, -⟩ :=
    exists_ready_task document exportArguments
      (fun task => (run bareSurroundings (exportDisk document) exportArguments).ending =
          .exit 0 ∧
        entries (task.converted (Export.read document)) =
          ["A: x".toList, "A: y_z".toList, "B: x".toList]) (by
          rw [← document_eq]
          decide +kernel)
  have inline : ∀ entry ∈ entries (task.converted (Export.read document)), '\n' ∉ entry := by
    rw [entries_eq]
    decide
  obtain ⟨ignored, text, -, reported, listed⟩ :=
    run_report_iff prepared writes exported ended
  refine ⟨task, text, prepared, reported, ?_⟩
  rw [(listed.mpr (inline_entries_iff.mp inline)).lines_eq, entries_eq]
  rfl

/-- A page with a call that runs over two lines. -/
def brokenCallExport : Text :=
  exportOf [("T", "\x7b\x7bA\nB\x7d\x7d")]

/-- A call that runs over two lines is counted once and takes two lines of the report. -/
theorem run_report_brokenCall :
    ∃ task text, prepare bareSurroundings (exportDisk brokenCallExport) exportArguments =
        .ok task ∧
      task.options.dryRun = false ∧
      (run bareSurroundings (exportDisk brokenCallExport) exportArguments).ending = .exit 0 ∧
      (run bareSurroundings (exportDisk brokenCallExport) exportArguments).disk.find?
        (task.directory ++ [reportName]) = some (.file text) ∧
      (entries (task.converted (Export.read brokenCallExport))).length = 1 ∧
      text.count '\n' = 2 ∧
      ¬ ListsCalls (task.converted (Export.read brokenCallExport)) text 1 := by
  generalize document_eq : brokenCallExport = document
  obtain ⟨task, between, prepared, writes, -, ⟨ended, single, reported⟩, -, -⟩ :=
    exists_ready_task document exportArguments
      (fun task => (run bareSurroundings (exportDisk document) exportArguments).ending =
          .exit 0 ∧
        (entries (task.converted (Export.read document))).length = 1 ∧
        (run bareSurroundings (exportDisk document) exportArguments).disk.find?
          (task.directory ++ [reportName]) = some (.file "T: A\nB\n".toList)) (by
            rw [← document_eq]
            decide +kernel)
  refine ⟨task, _, prepared, writes, ended, reported, single, by decide, fun listed => ?_⟩
  exact absurd listed.count_eq (by decide)

end Program

end DekiMigration
