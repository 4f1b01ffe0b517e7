/-
# Dry runs

A dry run goes the way of the run that writes and only tells about it. The two keep step page
by page, so that they close with the same counts, and the lines that the dry run has in
between are those of the pages that the other run writes. The disk is left as it is.
-/

import DekiMigration.Proofs.Preparation
import DekiMigration.Proofs.Report
import DekiMigration.Proofs.Text.Quoted

namespace DekiMigration

open Text

namespace CommandLine

/-- The state with a dry run asked for. -/
def State.dry (state : State) : State :=
  { state with options := { state.options with dryRun := true } }

theorem State.switch_dry (state : State) (flag : Flag) :
    state.dry.switch flag = (state.switch flag).map State.dry := by
  cases flag <;> rfl

theorem State.set_dry (state : State) (flag : Flag) (value : Text) :
    state.dry.set flag value = (state.set flag value).map State.dry := by
  cases flag with
  | limit =>
      rw [set, set]
      cases readInt value <;> rfl
  | _ => rfl

theorem State.step_dry (state : State) (word : Word) :
    state.dry.step word = (state.step word).map State.dry := by
  obtain ⟨source, options, awaiting, isFresh, unused⟩ := state
  cases awaiting with
  | some flag =>
      cases word with
      | plain value => exact State.set_dry _ flag value
      | _ => rfl
  | none =>
      cases word with
      | option flag value =>
          cases value with
          | none => exact State.switch_dry _ flag
          | some value => exact State.set_dry _ flag value
      | separator => cases source <;> cases isFresh <;> rfl
      | plain text => cases source <;> rfl
      | _ => rfl

theorem foldlM_step_dry (words : List Word) (state : State) :
    words.foldlM State.step state.dry = (words.foldlM State.step state).map State.dry := by
  induction words generalizing state with
  | nil => rfl
  | cons word words ih =>
      rw [List.foldlM_cons, List.foldlM_cons, State.step_dry]
      cases state.step word with
      | error refusal => rfl
      | ok next => exact ih next

theorem classifyAll_dryRun (arguments : List Text) :
    classifyAll ("--dry-run".toList :: arguments) =
      (classifyAll arguments).map (Word.option .dryRun none :: ·) := by
  have first : classify "--dry-run".toList = .ok (.option .dryRun none) := rfl
  rw [classifyAll, if_neg (by decide), first]
  cases classifyAll arguments <;> rfl

/-- With a dry run asked for in front, a command line asks for the same but for the writing. -/
theorem read_dryRun {arguments : List Text} {options : Options}
    (asked : read arguments = .ok options) :
    read ("--dry-run".toList :: arguments) = .ok { options with dryRun := true } := by
  rw [read] at asked ⊢
  rw [classifyAll_dryRun]
  cases classified : classifyAll arguments with
  | error refusal =>
      rw [classified] at asked
      cases asked
  | ok words =>
      have folded : (Word.option .dryRun none :: words).foldlM State.step {} =
          (words.foldlM State.step {}).map State.dry := foldlM_step_dry words {}
      rw [classified] at asked
      simp only [Except.map, bind, Except.bind] at asked ⊢
      rw [folded]
      cases stepped : words.foldlM State.step {} with
      | error refusal =>
          rw [stepped] at asked
          cases asked
      | ok state =>
          rw [stepped] at asked
          obtain ⟨source, chosen, awaiting, isFresh, unused⟩ := state
          cases awaiting with
          | some flag => cases asked
          | none =>
              cases source with
              | none => cases asked
              | some source =>
                  cases unused with
                  | cons word unused => cases asked
                  | nil =>
                      cases asked
                      rfl

end CommandLine

namespace Conversion

/-- The line of a dry run about a page: its namespace, its title and how many of its calls are
unresolved. -/
def mentionLine (page : MigratedPage) : Text :=
  "  [".toList ++ page.space.label ++ "] ".toList ++ quoted page.title ++ "  (".toList ++
    ofNat page.magicWords.length ++ " unresolved magic words)".toList

theorem inline_mentionLine (page : MigratedPage) : '\n' ∉ mentionLine page := by
  have labelled : '\n' ∉ page.space.label := by cases page.space <;> decide
  have numbered : '\n' ∉ ofNat page.magicWords.length := fun inside =>
    ne_of_isDigit (isDigit_of_mem_ofNat inside) (by decide) rfl
  obtain ⟨first, second, third, last⟩ : '\n' ∉ "  [".toList ∧ '\n' ∉ "] ".toList ∧
      '\n' ∉ "  (".toList ∧ '\n' ∉ " unresolved magic words)".toList := by decide
  have named := List.not_mem_append (List.not_mem_append (List.not_mem_append first labelled)
    second) (inline_quoted page.title)
  exact List.not_mem_append (List.not_mem_append (List.not_mem_append named third) numbered) last

theorem flatMap_mention (pages : List MigratedPage) :
    pages.flatMap mention = closeLines (pages.map mentionLine) := by
  have back : " unresolved magic words)\n".toList =
      " unresolved magic words)".toList ++ ['\n'] := by decide
  have mention_eq : ∀ page, mention page = mentionLine page ++ ['\n'] := by
    intro page
    unfold mention mentionLine
    rw [back]
    simp only [List.append_assoc]
  rw [closeLines, List.flatMap_map]
  exact List.flatMap_congr fun page _ => mention_eq page

/-- The last lines of a dry run: those of the run that writes, with a mark in front. -/
def dryClosing (converted ignored errors unresolved : Nat) : Text :=
  "\n[DRY RUN] ".toList ++ (closing converted ignored errors unresolved).tail

theorem Result.summary_eq_dryClosing (result : Result) :
    result.summary true =
      dryClosing result.converted.length result.ignored 0 result.unresolved := by
  have marked : result.summary true = "\n[DRY RUN] ".toList ++ (result.summary false).tail := by
    have front : "\n[DRY RUN] ".toList = '\n' :: "[DRY RUN] ".toList := rfl
    unfold summary
    rw [front, if_neg Bool.false_ne_true]
    simp only [if_pos, List.cons_append, List.nil_append, List.append_assoc, List.tail_cons]
  rw [marked, result.summary_eq_closing]
  unfold dryClosing
  rfl

/-- A dry run tells about every page that it keeps, and writes nothing. -/
theorem output_of_dryRun {manner : Manner} {catalog : Template.Catalog} {directory : Place}
    {pages : List SourcePage} {disk : Disk} (dry : manner.dryRun = true) :
    (run manner catalog directory pages disk).output =
        (run manner catalog directory pages disk).converted.flatMap mention ∧
      (run manner catalog directory pages disk).disk = disk := by
  fun_induction run manner catalog directory pages disk with
  | case1 disk => exact ⟨rfl, rfl⟩
  | case2 page later disk migrated log leftOut rest ih => exact ih
  | case3 page later disk migrated log included dry rest ih =>
      refine ⟨?_, ih.2⟩
      show mention migrated ++ rest.output = (migrated :: rest.converted).flatMap mention
      rw [List.flatMap_cons, ih.1]
  | case4 page later disk migrated log included writing between left rest ih =>
      exact absurd dry writing
  | case5 page later disk migrated log included writing problem refused =>
      exact absurd dry writing

end Conversion

namespace Program

open Conversion

/-- The task without the writing. -/
def Task.dry (task : Task) : Task :=
  { task with options := { task.options with dryRun := true } }

section Runs

variable {surroundings : Surroundings} {disk : Disk} {arguments dryArguments : List Text}
  {options : CommandLine.Options} {task : Task}

/-- Whether a run is dry has no part in how its task is prepared. -/
theorem Prepares.dry (prepares : Prepares surroundings disk options task) :
    Prepares surroundings disk { options with dryRun := true } task.dry where
  options_eq := by rw [Task.dry, prepares.options_eq]
  settings := prepares.settings
  source := prepares.source
  chosen := prepares.chosen
  configured := prepares.configured

theorem Task.opening_dry (task : Task) (found : Export) :
    task.dry.opening found = task.opening found := rfl

/-- A dry conversion comes to its end, and all that it does is telling. -/
theorem convert_dry (task : Task) (disk : Disk) (found : Export) (output log : Text) :
    ∃ ignored, (task.converted found).length + ignored = (task.taken found).length ∧
      (convert task.dry disk found output log).ending = .exit 0 ∧
      (convert task.dry disk found output log).disk = disk ∧
      (convert task.dry disk found output log).output =
        output ++ closeLines ((task.converted found).map mentionLine) ++
          dryClosing (task.converted found).length ignored 0
            (entries (task.converted found)).length := by
  have asked : task.dry.options.dryRun = true := rfl
  have dry : task.dry.manner.dryRun = true := rfl
  generalize result_eq : task.dry.conversion found [] disk = result
  obtain ⟨complete, converted_eq, ⟨output_eq, disk_eq⟩, counts⟩ :
      result.problem = none ∧ result.converted = task.converted found ∧
        (result.output = result.converted.flatMap mention ∧ result.disk = disk) ∧
        result.converted.length + result.ignored = (task.taken found).length := by
    rw [← result_eq, task.dry.conversion_eq]
    have complete : (Conversion.run task.dry.manner found.catalog [] (task.taken found)
        disk).problem = none :=
      problem_of_dryRun dry _ _
    exact ⟨complete, (run_converted _ _ _ _ _).2 complete, output_of_dryRun dry,
      run_counts complete⟩
  rw [converted_eq] at counts output_eq
  refine ⟨result.ignored, counts, ?_⟩
  rw [convert]
  dsimp only
  rw [asked, if_pos rfl]
  dsimp only
  rw [result_eq, complete]
  dsimp only
  rw [if_pos rfl, result.summary_eq_dryClosing, Result.unresolved, output_eq, converted_eq,
    flatMap_mention, length_entries]
  exact ⟨rfl, disk_eq, rfl⟩

/-- What a dry run says beforehand about a run that writes. Both tell of the same export and
close with the same counts, which account for every page that is selected. In between the dry
run has one line for each page that the other run writes, and it leaves the disk alone. -/
structure Foretells (task : Task) (found : Export) (before : Disk) (dry real : Run) : Prop where
  ended : dry.ending = .exit 0
  unchanged : dry.disk = before
  written : ∃ made written, IsWritten task.directory (task.converted found) made written ∧
    written.write task.directory reportName (report (task.converted found)) = .ok real.disk
  told : ∃ listing ignored,
    lines listing = (task.converted found).map mentionLine ++ [[]] ∧
    dry.output = task.opening found ++ listing ++
      dryClosing (task.converted found).length ignored 0
        (entries (task.converted found)).length ∧
    real.output = task.opening found ++
      closing (task.converted found).length ignored 0 (entries (task.converted found)).length ∧
    (task.converted found).length + ignored + 0 =
      (found.pages.take (quota task.options.limit found.pages.length)).length

/-- Of two runs that are asked for the same but for the writing, the dry one foretells the
other if that ends normally. -/
theorem run_foretells (asked : CommandLine.read arguments = .ok options)
    (writes : options.dryRun = false)
    (asked' : CommandLine.read dryArguments = .ok { options with dryRun := true })
    (ended : (run surroundings disk arguments).ending = .exit 0) :
    ∃ task contents, prepare surroundings disk arguments = .ok task ∧
      disk.find? task.source = some (.file contents) ∧
      Foretells task (Export.read contents) disk (run surroundings disk dryArguments)
        (run surroundings disk arguments) := by
  obtain ⟨task, prepared, prepares⟩ := exists_prepares_of_ended asked ended
  obtain ⟨contents, exported, readable⟩ := exists_export_of_ended prepared ended
  have prepared' : prepare surroundings disk dryArguments = .ok task.dry :=
    prepare_of_prepares asked' prepares.dry
  have dry_eq := run_eq_convert prepared' exported readable
  rw [task.opening_dry] at dry_eq
  rw [← prepares.options_eq] at writes
  rw [run_eq_convert prepared exported readable] at ended
  obtain ⟨ignored, counts, output_eq, -⟩ := convert_of_ended writes ended
  obtain ⟨ignored', counts', dryEnded, dryDisk, dryOutput⟩ := convert_dry task disk
    (Export.read contents) (task.opening (Export.read contents))
    (logLines task.dry.threshold (Export.read contents).notices)
  obtain rfl : ignored = ignored' := by omega
  have inline : ∀ line ∈ (task.converted (Export.read contents)).map mentionLine,
      '\n' ∉ line := List.forall_mem_map.mpr fun page _ => inline_mentionLine page
  refine ⟨task, contents, prepared, exported, ?_⟩
  rw [dry_eq, run_eq_convert prepared exported readable]
  exact
    { ended := dryEnded
      unchanged := dryDisk
      written := (convert_written writes ended).1
      told := ⟨_, ignored, lines_closeLines.mpr inline, dryOutput, output_eq, counts⟩ }

end Runs

/-- Four pages: one that calls what no template answers, one that is left out, one that calls
nothing, and one more with a call. -/
def mixedExport : Text :=
  "<w><page><title>A</title><ns>0</ns><revision><text>\x7b\x7bx\x7d\x7d".toList ++
    "</text></revision></page><page><title>Category:C</title><ns>14</ns><revision>".toList ++
    "<text>c</text></revision></page><page><title>B/D</title><ns>0</ns><revision>".toList ++
    "<text>b</text></revision></page><page><title>E</title><ns>0</ns><revision><text>".toList ++
    "\x7b\x7by\x7d\x7d</text></revision></page></w>".toList

/-- The words that ask for the first three pages of an export. -/
def limitedArguments : List Text :=
  exportArguments ++ ["--limit".toList, "3".toList]

/-- Of four pages three are asked for: the dry run lists the two of them that are converted and
closes with the counts of the run that writes. -/
theorem run_foretells_mixedExport :
    (Export.read mixedExport).pages.length = 4 ∧
      (run bareSurroundings (exportDisk mixedExport)
        ("--dry-run".toList :: limitedArguments)).disk = exportDisk mixedExport ∧
      ∃ opening listing,
        (run bareSurroundings (exportDisk mixedExport)
          ("--dry-run".toList :: limitedArguments)).output =
            opening ++ listing ++ dryClosing 2 1 0 1 ∧
        lines listing = ["  [Main] 'A'  (1 unresolved magic words)".toList,
          "  [Main] 'B/D'  (0 unresolved magic words)".toList, []] ∧
        (run bareSurroundings (exportDisk mixedExport) limitedArguments).output =
          opening ++ closing 2 1 0 1 := by
  generalize document_eq : mixedExport = document
  have asked : CommandLine.read limitedArguments =
      .ok { source := "e.xml".toList, output := some "out".toList, limit := some 3 } := by
    decide +kernel
  obtain ⟨task, -, prepared, -, exported, ⟨ended, listed, unresolved, found, limit⟩, -, -⟩ :=
    exists_ready_task document limitedArguments
      (fun task => (run bareSurroundings (exportDisk document) limitedArguments).ending =
          .exit 0 ∧
        (task.converted (Export.read document)).map mentionLine =
          ["  [Main] 'A'  (1 unresolved magic words)".toList,
            "  [Main] 'B/D'  (0 unresolved magic words)".toList] ∧
        (entries (task.converted (Export.read document))).length = 1 ∧
        (Export.read document).pages.length = 4 ∧ task.options.limit = some 3) (by
          rw [← document_eq]
          decide +kernel)
  obtain ⟨task', contents, prepared', exported', foretells⟩ :=
    run_foretells asked rfl (CommandLine.read_dryRun asked) ended
  obtain rfl : task = task' := Except.ok.inj (prepared.symm.trans prepared')
  obtain rfl : document = contents :=
    Entry.file.inj (Option.some.inj (exported.symm.trans exported'))
  have converted : (task.converted (Export.read document)).length = 2 :=
    (List.length_map mentionLine).symm.trans (congrArg List.length listed)
  obtain ⟨listing, ignored, lines_eq, dryOutput, realOutput, counts⟩ := foretells.told
  have selected : quota (some 3) 4 = 3 := rfl
  rw [converted, limit, List.length_take, found, selected] at counts
  obtain rfl : ignored = 1 := by omega
  rw [converted, unresolved] at dryOutput realOutput
  rw [listed] at lines_eq
  exact ⟨found, foretells.unchanged, _, listing, dryOutput, lines_eq, realOutput⟩

end Program

end DekiMigration
