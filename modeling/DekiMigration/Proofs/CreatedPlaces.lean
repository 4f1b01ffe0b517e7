/-
# What a run creates

A run writes into a directory, which it makes first, together with what is missing around
it. Titles come from the export and may hold anything. In the name of a file no slash is
left, and its ending keeps it from being a name that stands for a directory, so whatever a
title holds, its file is right inside the output directory. A run that ends normally thus
adds the files of the converted pages and the report to that directory, and nothing else
anywhere on the disk.
-/

import DekiMigration.Proofs.WrittenPages

namespace DekiMigration

open Text

namespace Path

/-- The directories that names lead into from a place, one after the other. -/
def through (place : Place) : List Text → List Place
  | [] => []
  | name :: names =>
    if name = above then through place.dropLast names
    else (place ++ [name]) :: through (place ++ [name]) names

/-- Read as a path from wherever it is, a name leads to what bears that name there: not up,
not further down and not elsewhere. -/
def IsChildName (name : Text) : Prop :=
  (ofText name).isAbsolute = false ∧
    ∀ place, follow place (ofText name).names = place ++ [name]

theorem follow_eq_append {names : List Text} (forward : above ∉ names) (place : Place) :
    follow place names = place ++ names := by
  induction names generalizing place with
  | nil => exact (List.append_nil place).symm
  | cons name names ih =>
      rw [List.mem_cons, not_or] at forward
      rw [follow, List.foldl_cons, if_neg (Ne.symm forward.1), ← follow, ih forward.2,
        List.append_assoc, List.singleton_append]

/-- Names of which none leads back lead into the directory that they come to and into
directories around it. -/
theorem prefix_follow_of_mem_through {place inner : Place} {names : List Text}
    (forward : above ∉ names) (inside : inner ∈ through place names) :
    inner <+: follow place names := by
  induction names generalizing place with
  | nil => cases inside
  | cons name names ih =>
      rw [List.mem_cons, not_or] at forward
      rw [through, if_neg (Ne.symm forward.1), List.mem_cons] at inside
      rw [follow, List.foldl_cons, if_neg (Ne.symm forward.1), ← follow]
      rcases inside with rfl | later
      · rw [follow_eq_append forward.2]
        exact List.prefix_append _ names
      · exact ih forward.2 later

/-- A name without slash leads to what bears it, unless it stands for a directory. -/
theorem isChildName_of_slashless {name : Text} (slashless : '/' ∉ name) (nonempty : name ≠ [])
    (notHere : name ≠ here) (notAbove : name ≠ above) : IsChildName name := by
  have front : name.takeWhile (· = '/') = [] := by
    cases name with
    | nil => exact absurd rfl nonempty
    | cons c name =>
        have visible : c ≠ '/' := fun same => slashless (same ▸ List.mem_cons_self)
        exact List.takeWhile_cons_of_neg (by simpa using visible)
  have root : (ofText name).root = [] := by
    rw [ofText]
    dsimp only
    rw [front]
  have names : (ofText name).names = [name] := by
    have alone : name.splitOn '/' = [name] := List.splitOn_eq_singleton slashless
    rw [ofText]
    dsimp only
    rw [alone]
    simp [nonempty, notHere]
  refine ⟨by rw [isAbsolute, root]; rfl, fun place => ?_⟩
  rw [names, follow, List.foldl_cons, if_neg notAbove, List.foldl_nil]

end Path

namespace Conversion

open DekiMigration.Path

theorem slash_not_mem_fileName (title : Text) : '/' ∉ fileName title := by
  rw [fileName, List.mem_append, List.mem_flatMap]
  rintro (⟨c, -, inside⟩ | ending)
  · split at inside
    · revert inside
      decide
    · next other => exact other (List.mem_singleton.mp inside).symm
  · revert ending
    decide

/-- Whatever its title, the file of a page is right inside its directory. -/
theorem isChildName_fileName (title : Text) : IsChildName (fileName title) := by
  have long : 4 ≤ (fileName title).length := by
    rw [fileName, List.length_append]
    exact Nat.le_add_left 4 _
  have other {name : Text} (short : name.length < 4) : fileName title ≠ name := by
    rintro rfl
    omega
  exact isChildName_of_slashless (slash_not_mem_fileName title) (other (by decide))
    (other (by decide)) (other (by decide))

theorem isChildName_reportName : IsChildName reportName :=
  isChildName_of_slashless (by decide) (by decide) (by decide) (by decide)

end Conversion

namespace Disk

open DekiMigration.Path

/-- Where a name does not lead back, no file is in the way of its directory, which is there
before those behind it are made. -/
theorem exists_between_of_makeDirectories {name : Text} {names : List Text} {disk made : Disk}
    {place reached : Place} {missing : Bool} (forward : name ≠ above)
    (accepted : disk.makeDirectories place (name :: names) missing = .ok (made, reached)) :
    (∀ text, disk.find? (place ++ [name]) ≠ some (.file text)) ∧
    ∃ (between : Disk) (missing' : Bool),
      between.makeDirectories (place ++ [name]) names missing' = .ok (made, reached) ∧
      ∀ other, between.find? other =
        if other = place ++ [name] then some .directory else disk.find? other := by
  rw [makeDirectories, if_neg forward] at accepted
  split at accepted
  · cases accepted
  dsimp only at accepted
  split at accepted
  · next isDirectory =>
      refine ⟨by simp [isDirectory], disk, missing, accepted, fun other => ?_⟩
      split
      · next same => rw [same, isDirectory]
      · rfl
  · cases accepted
  · next absent =>
      refine ⟨by simp [absent], _, true, accepted, fun other => ?_⟩
      split
      · next same => rw [same, find?_put_self (by simp)]
      · next elsewhere => exact find?_put_of_ne elsewhere disk .directory

/-- Making directories puts nothing on the disk but the directories that the names lead
into. -/
theorem find?_makeDirectories {names : List Text} {disk made : Disk} {place reached : Place}
    {missing : Bool}
    (accepted : disk.makeDirectories place names missing = .ok (made, reached)) (other : Place) :
    made.find? other =
      if other ∈ through place names then some .directory else disk.find? other := by
  induction names generalizing disk place missing with
  | nil =>
      cases accepted
      rfl
  | cons name names ih =>
      rw [through]
      by_cases back : name = above
      · rw [makeDirectories, if_pos back] at accepted
        rw [if_pos back]
        exact ih accepted
      · obtain ⟨-, between, missing', accepted', found⟩ :=
          exists_between_of_makeDirectories back accepted
        rw [if_neg back, ih accepted', found other]
        by_cases same : other = place ++ [name] <;> simp [same]

/-- No file is in the way of directories that are made. -/
theorem notFile_of_makeDirectories {names : List Text} {disk made : Disk} {place reached : Place}
    {missing : Bool}
    (accepted : disk.makeDirectories place names missing = .ok (made, reached)) {other : Place}
    (inside : other ∈ through place names) (text : Text) :
    disk.find? other ≠ some (.file text) := by
  induction names generalizing disk place missing with
  | nil => cases inside
  | cons name names ih =>
      rw [through] at inside
      by_cases back : name = above
      · rw [makeDirectories, if_pos back] at accepted
        rw [if_pos back] at inside
        exact ih accepted inside
      · obtain ⟨free, between, missing', accepted', found⟩ :=
          exists_between_of_makeDirectories back accepted
        rw [if_neg back, List.mem_cons] at inside
        by_cases same : other = place ++ [name]
        · rw [same]
          exact free text
        · have notFile := ih accepted' (inside.resolve_left same)
          rwa [found other, if_neg same] at notFile

/-- A directory is not overwritten. -/
theorem find?_write_directory {disk written : Disk} {directory place : Place}
    {name contents : Text} (accepted : disk.write directory name contents = .ok written)
    (isDirectory : disk.find? place = some .directory) :
    written.find? place = some .directory := by
  by_cases same : place = directory ++ [name]
  · rw [write, ← same, if_pos isDirectory] at accepted
    split at accepted <;> cases accepted
  · rw [write_eq_ok accepted, find?_put_of_ne same, isDirectory]

/-- A file that is written changes nothing but its own place. -/
theorem find?_write_elsewhere {disk written : Disk} {directory : Place} {name contents : Text}
    (accepted : disk.write directory name contents = .ok written) {other : Place}
    (elsewhere : other ≠ directory ++ [name]) : written.find? other = disk.find? other := by
  rw [write_eq_ok accepted]
  exact find?_put_of_ne elsewhere disk (.file contents)

end Disk

namespace Conversion

variable {manner : Manner} {catalog : Template.Catalog} {directory : Place}
  {pages : List SourcePage} {disk : Disk}

/-- A conversion that comes to its end changes no place but those of the files of the pages
that it keeps. -/
theorem find?_run_elsewhere (writes : manner.dryRun = false)
    (complete : (run manner catalog directory pages disk).outcome.problem = none) {place : Place}
    (elsewhere : ∀ page ∈ kept manner catalog pages,
      place ≠ directory ++ [fileName page.title]) :
    (run manner catalog directory pages disk).outcome.disk.find? place = disk.find? place := by
  induction pages, disk using run_induction manner catalog directory with
  | nil disk => rfl
  | leftOut leftOut ih =>
      rw [kept_cons_of_leftOut leftOut] at elsewhere
      rw [outcome_of_leftOut leftOut] at complete ⊢
      exact ih complete elsewhere
  | left included left ih =>
      rw [kept_cons_of_included included, List.forall_mem_cons] at elsewhere
      rw [outcome_of_left included left] at complete ⊢
      rw [leave, writes, if_neg Bool.false_ne_true] at left
      exact (ih complete elsewhere.2).trans (Disk.find?_write_elsewhere left elsewhere.1)
  | refused included refused =>
      rw [outcome_of_refused included refused] at complete
      cases complete

/-- A conversion keeps the directories that there are. -/
theorem find?_run_directory (writes : manner.dryRun = false) {place : Place}
    (isDirectory : disk.find? place = some .directory) :
    (run manner catalog directory pages disk).outcome.disk.find? place = some .directory := by
  induction pages, disk using run_induction manner catalog directory with
  | nil disk => exact isDirectory
  | leftOut leftOut ih =>
      rw [outcome_of_leftOut leftOut]
      exact ih isDirectory
  | left included left ih =>
      rw [outcome_of_left included left]
      rw [leave, writes, if_neg Bool.false_ne_true] at left
      exact ih (Disk.find?_write_directory left isDirectory)
  | refused included refused =>
      rw [outcome_of_refused included refused]
      exact isDirectory

end Conversion

namespace Program

open Conversion DekiMigration.Path

/-- The names of the files that a task leaves: those of the pages that it converts, and that
of the report. -/
def Task.fileNames (task : Task) (found : Export) : List Text :=
  (task.converted found).map (fileName ·.title) ++ [reportName]

/-- The directories that a task makes where they are missing: the output directory and those
on the way to it. -/
def Task.directories (task : Task) : List Place :=
  through task.output.1 task.output.2

/-- There is nothing in the directory of a task, whether there is such a directory or
not. -/
def Task.IsVacant (task : Task) (disk : Disk) : Prop :=
  ∀ name names, disk.find? (task.directory ++ name :: names) = none

/-- Between two states of the disk a task has left its files in its directory and done
nothing else: what was there is there as before, the directory and those around it have been
made, and whatever is new is one of these or a file of the task. -/
structure CreatesOnly (task : Task) (found : Export) (before after : Disk) : Prop where
  files : ∀ name ∈ task.fileNames found, before.find? (task.directory ++ [name]) = none ∧
    ∃ text, after.find? (task.directory ++ [name]) = some (.file text)
  directories : ∀ place ∈ task.directories, after.find? place = some .directory
  around : Path.above ∉ task.output.2 → ∀ place ∈ task.directories, place <+: task.directory
  kept : ∀ place entry, before.find? place = some entry → after.find? place = some entry
  created : ∀ place, before.find? place = none → after.find? place ≠ none →
    place ∈ task.directories ∨ ∃ name ∈ task.fileNames found, place = task.directory ++ [name]
  inside : ∀ name ∈ task.fileNames found, Path.IsChildName name

variable {task : Task} {found : Export} {disk between final : Disk}

theorem isChildName_of_mem_fileNames {name : Text} (isName : name ∈ task.fileNames found) :
    Path.IsChildName name := by
  rw [Task.fileNames, List.mem_append, List.mem_map, List.mem_singleton] at isName
  rcases isName with ⟨page, -, rfl⟩ | rfl
  · exact isChildName_fileName page.title
  · exact isChildName_reportName

/-- What comes to its end leaves a file of every name that it gives. -/
theorem Completes.exists_file (completes : Completes task found disk between final)
    (writes : task.options.dryRun = false) {name : Text} (isName : name ∈ task.fileNames found) :
    ∃ text, final.find? (task.directory ++ [name]) = some (.file text) := by
  by_cases same : name = reportName
  · exact ⟨_, same ▸ Disk.find?_write_self completes.reported⟩
  · obtain ⟨page, isPage, rfl⟩ : ∃ page ∈ task.converted found, fileName page.title = name := by
      rw [Task.fileNames, List.mem_append, List.mem_map] at isName
      exact isName.resolve_right fun isReport => same (List.mem_singleton.mp isReport)
    obtain ⟨other, -, -, found⟩ := (completes.written writes).2.found page isPage
    exact ⟨other.text, (Disk.find?_write_of_ne completes.reported same).trans found⟩

/-- What comes to its end changes nothing but its files and its directories. -/
theorem Completes.find?_elsewhere (completes : Completes task found disk between final)
    (writes : task.options.dryRun = false) {place : Place}
    (elsewhere : ∀ name ∈ task.fileNames found, place ≠ task.directory ++ [name]) :
    final.find? place =
      if place ∈ task.directories then some .directory else disk.find? place := by
  have writes' : task.manner.dryRun = false := writes
  have notReport := elsewhere reportName (by simp [Task.fileNames])
  have notPage : ∀ page ∈ task.converted found,
      place ≠ task.directory ++ [fileName page.title] := fun page isPage =>
    elsewhere (fileName page.title)
      (List.mem_append_left _ (List.mem_map.mpr ⟨page, isPage, rfl⟩))
  have complete := completes.complete
  rw [task.conversion_eq] at complete
  rw [Disk.find?_write_elsewhere completes.reported notReport, task.conversion_eq]
  exact (find?_run_elsewhere writes' complete notPage).trans
    (Disk.find?_makeDirectories completes.made place)

/-- What comes to its end has its directories. -/
theorem Completes.find?_directories (completes : Completes task found disk between final)
    (writes : task.options.dryRun = false) {place : Place}
    (isDirectory : place ∈ task.directories) : final.find? place = some .directory := by
  have writes' : task.manner.dryRun = false := writes
  have made : between.find? place = some .directory :=
    (Disk.find?_makeDirectories completes.made place).trans (if_pos isDirectory)
  exact Disk.find?_write_directory completes.reported (find?_run_directory writes' made)

/-- What comes to its end with nothing in its directory before creates only its files there
and the directories on the way. -/
theorem Completes.createsOnly (completes : Completes task found disk between final)
    (writes : task.options.dryRun = false) (vacant : task.IsVacant disk) :
    CreatesOnly task found disk final := by
  have elsewhere {place : Place} {entry : Entry} (held : disk.find? place = some entry) :
      ∀ name ∈ task.fileNames found, place ≠ task.directory ++ [name] := by
    rintro name - rfl
    rw [vacant name []] at held
    cases held
  constructor
  case files =>
    exact fun name isName => ⟨vacant name [], completes.exists_file writes isName⟩
  case directories => exact fun place => completes.find?_directories writes
  case around => exact fun forward place => Path.prefix_follow_of_mem_through forward
  case kept =>
    intro place entry held
    rw [completes.find?_elsewhere writes (elsewhere held)]
    split
    · next isDirectory =>
        have notFile := Disk.notFile_of_makeDirectories completes.made isDirectory
        rw [held] at notFile
        cases entry with
        | directory => rfl
        | file text => exact absurd rfl (notFile text)
    · exact held
  case created =>
    intro place absent present
    by_cases named : ∃ name ∈ task.fileNames found, place = task.directory ++ [name]
    · exact .inr named
    · have notName : ∀ name ∈ task.fileNames found, place ≠ task.directory ++ [name] :=
        fun name isName same => named ⟨name, isName, same⟩
      rw [completes.find?_elsewhere writes notName] at present
      split at present
      · next isDirectory => exact .inl isDirectory
      · exact absurd absent present
  case inside => exact fun name => isChildName_of_mem_fileNames

/-- A run that ends normally, with nothing in its output directory before, has created there
the files of the pages that it has converted and the report, on the way the directories that
were missing, and nothing else. Whatever the titles hold, each file is right inside the
output directory. -/
theorem run_createsOnly {surroundings : Surroundings} {arguments : List Text}
    (prepared : prepare surroundings disk arguments = .ok task)
    (writes : task.options.dryRun = false) (vacant : task.IsVacant disk)
    (ended : (run surroundings disk arguments).ending = .exit 0) :
    ∃ contents, disk.find? task.source = some (.file contents) ∧
      CreatesOnly task (Export.read contents) disk (run surroundings disk arguments).disk := by
  obtain ⟨contents, exported, readable⟩ := exists_export_of_ended prepared ended
  refine ⟨contents, exported, ?_⟩
  rw [run_eq_convert prepared exported readable] at ended ⊢
  obtain ⟨between, final, completes⟩ := exists_completes_of_ended writes ended
  rw [(convert_of_completes _ _ writes completes).2.1]
  exact completes.createsOnly writes vacant

/-- There is nothing in a directory when no entry of the disk is in it. -/
theorem isVacant_of_entries (outside : ∀ entry ∈ disk.entries, ¬ task.directory <+: entry.1) :
    task.IsVacant disk := by
  intro name names
  rw [Disk.find?_eq_lookup (by simp), List.lookup_eq_none_iff]
  intro entry isEntry
  rw [bne_iff_ne]
  rintro same
  exact outside entry isEntry (same ▸ List.prefix_append task.directory (name :: names))

/-- An export with titles that would lead up, to the root and further down. -/
def leadingTitles : Text :=
  exportOf [("../../A", "a"), ("..", "b"), ("/C", "c"), ("D/E", "d")]

/-- Titles that would lead elsewhere do not. -/
theorem run_createsOnly_leadingTitles :
    ∃ task, prepare bareSurroundings (exportDisk leadingTitles) exportArguments = .ok task ∧
      task.options.dryRun = false ∧ task.IsVacant (exportDisk leadingTitles) ∧
      (run bareSurroundings (exportDisk leadingTitles) exportArguments).ending = .exit 0 ∧
      task.fileNames (Export.read leadingTitles) =
        ["..%2F..%2FA.txt".toList, "...txt".toList, "%2FC.txt".toList, "D%2FE.txt".toList,
          "magic_words.txt".toList] ∧
      CreatesOnly task (Export.read leadingTitles) (exportDisk leadingTitles)
        (run bareSurroundings (exportDisk leadingTitles) exportArguments).disk := by
  generalize document_eq : leadingTitles = document
  have checked : (prepare bareSurroundings (exportDisk document) exportArguments).toOption.any
      (fun task => task.options.dryRun = false ∧
        (exportDisk document).find? task.source = some (.file document) ∧
        (∀ entry ∈ (exportDisk document).entries, ¬ task.directory <+: entry.1) ∧
        task.fileNames (Export.read document) =
          ["..%2F..%2FA.txt".toList, "...txt".toList, "%2FC.txt".toList, "D%2FE.txt".toList,
            "magic_words.txt".toList]) := by
    rw [← document_eq]
    decide +kernel
  have ended : (run bareSurroundings (exportDisk document) exportArguments).ending = .exit 0 := by
    rw [← document_eq]
    decide +kernel
  cases prepared : prepare bareSurroundings (exportDisk document) exportArguments with
  | error refusal =>
      rw [prepared] at checked
      cases checked
  | ok task =>
      rw [prepared] at checked
      obtain ⟨writes, exported, outside, named⟩ := of_decide_eq_true checked
      have vacant : task.IsVacant (exportDisk document) := isVacant_of_entries outside
      obtain ⟨contents, exported', creates⟩ := run_createsOnly prepared writes vacant ended
      rw [exported] at exported'
      cases exported'
      exact ⟨task, rfl, writes, vacant, ended, named, creates⟩

end Program

end DekiMigration
