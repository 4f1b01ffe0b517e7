/-
# The course of a conversion

A conversion takes the pages one by one. A page is left out, or it is left in its file and
counts as converted, or it cannot be written and ends the run. What is told along the way
has no influence on that, so a run is followed by its outcome alone: the converted pages
come in the order of the export, those of a run that breaks off are the first of those that
it was going to convert, and a run over two stretches of pages is the run over the second
on the disk that the first has left.
-/

import DekiMigration.Conversion
import DekiMigration.Proofs.Disk

namespace DekiMigration

open Text

namespace Disk

/-- A file of that name can be written into a directory: the name is not too long, and no
directory bears it. -/
def Accepts (disk : Disk) (directory : Place) (name : Text) : Prop :=
  isTooLong name = false ∧ disk.find? (directory ++ [name]) ≠ some .directory

theorem accepts_iff {disk : Disk} {directory : Place} {name : Text} (contents : Text) :
    disk.Accepts directory name ↔
      ∃ written, disk.write directory name contents = .ok written := by
  rw [Accepts, write]
  cases isTooLong name with
  | true => simp
  | false =>
      by_cases taken : disk.find? (directory ++ [name]) = some .directory
      · simp [taken]
      · simp [taken]

/-- Files that are written take no other file its place. -/
theorem accepts_write {disk written : Disk} {directory : Place} {name contents : Text}
    (accepted : disk.write directory name contents = .ok written) (other : Text) :
    written.Accepts directory other ↔ disk.Accepts directory other := by
  by_cases same : other = name
  · rw [same]
    refine iff_of_true ?_ ((accepts_iff contents).mpr ⟨written, accepted⟩)
    refine ⟨((accepts_iff contents).mpr ⟨written, accepted⟩).1, ?_⟩
    rw [find?_write_self accepted]
    exact fun isDirectory => Entry.noConfusion (Option.some.inj isDirectory)
  · rw [Accepts, Accepts, find?_write_of_ne accepted same]

/-- Two disks take the same files into a directory. -/
def TakesAs (first second : Disk) (directory : Place) : Prop :=
  ∀ name, first.Accepts directory name ↔ second.Accepts directory name

theorem TakesAs.symm {first second : Disk} {directory : Place}
    (alike : first.TakesAs second directory) : second.TakesAs first directory :=
  fun name => (alike name).symm

theorem TakesAs.trans {first second third : Disk} {directory : Place}
    (alike : first.TakesAs second directory) (alike' : second.TakesAs third directory) :
    first.TakesAs third directory :=
  fun name => (alike name).trans (alike' name)

end Disk

namespace Conversion

/-- What a conversion leaves, apart from what it tells. -/
structure Outcome where
  converted : List MigratedPage
  disk : Disk
  problem : Option Disk.Refusal

/-- The outcome with one more page in front. -/
def Outcome.prepend (page : MigratedPage) (outcome : Outcome) : Outcome :=
  { outcome with converted := page :: outcome.converted }

def Result.outcome (result : Result) : Outcome :=
  ⟨result.converted, result.disk, result.problem⟩

/-- The pages of an export that are converted. -/
def kept (manner : Manner) (catalog : Template.Catalog) (pages : List SourcePage) :
    List MigratedPage :=
  (pages.map (·.migrate catalog manner.projectPrefix)).filter fun page =>
    !(page.isIgnored && !manner.includeIgnored)

/-- Whether a page is left out. -/
def Manner.leavesOut (manner : Manner) (page : MigratedPage) : Bool :=
  page.isIgnored && !manner.includeIgnored

/-- Leaves a page in its file, unless the run is dry. -/
def leave (manner : Manner) (directory : Place) (page : MigratedPage) (disk : Disk) :
    Except Disk.Refusal Disk :=
  if manner.dryRun then .ok disk else disk.write directory (fileName page.title) page.text

variable {manner : Manner} {catalog : Template.Catalog} {directory : Place} {page : SourcePage}
  {later : List SourcePage} {disk : Disk}

section Steps

/-- A page that is left out changes nothing. -/
theorem outcome_of_leftOut
    (leftOut : manner.leavesOut (page.migrate catalog manner.projectPrefix) = true) :
    (run manner catalog directory (page :: later) disk).outcome =
      (run manner catalog directory later disk).outcome := by
  rw [Manner.leavesOut] at leftOut
  rw [run]
  dsimp only
  rw [if_pos leftOut]
  rfl

/-- A page that is left in its file comes before those of the rest of the run. -/
theorem outcome_of_left {between : Disk}
    (included : manner.leavesOut (page.migrate catalog manner.projectPrefix) = false)
    (left : leave manner directory (page.migrate catalog manner.projectPrefix) disk =
      .ok between) :
    (run manner catalog directory (page :: later) disk).outcome =
      (run manner catalog directory later between).outcome.prepend
        (page.migrate catalog manner.projectPrefix) := by
  rw [Manner.leavesOut] at included
  rw [run]
  dsimp only
  rw [included, if_neg Bool.false_ne_true]
  rw [leave] at left
  cases dry : manner.dryRun with
  | true =>
      rw [dry, if_pos rfl] at left
      cases left
      rfl
  | false =>
      rw [dry, if_neg Bool.false_ne_true] at left
      rw [if_neg Bool.false_ne_true, left]
      rfl

/-- A page that cannot be written ends the run. -/
theorem outcome_of_refused {refusal : Disk.Refusal}
    (included : manner.leavesOut (page.migrate catalog manner.projectPrefix) = false)
    (refused : leave manner directory (page.migrate catalog manner.projectPrefix) disk =
      .error refusal) :
    (run manner catalog directory (page :: later) disk).outcome = ⟨[], disk, some refusal⟩ := by
  rw [Manner.leavesOut] at included
  rw [run]
  dsimp only
  rw [included, if_neg Bool.false_ne_true]
  rw [leave] at refused
  cases dry : manner.dryRun with
  | true =>
      rw [dry, if_pos rfl] at refused
      cases refused
  | false =>
      rw [dry, if_neg Bool.false_ne_true] at refused
      rw [if_neg Bool.false_ne_true, refused]
      rfl

variable (manner catalog directory) in
/-- Induction along a run: from the run over the other pages, on the disk as it is then. -/
theorem run_induction {motive : List SourcePage → Disk → Prop} (nil : ∀ disk, motive [] disk)
    (leftOut : ∀ {page later disk},
      manner.leavesOut (page.migrate catalog manner.projectPrefix) = true →
      motive later disk → motive (page :: later) disk)
    (left : ∀ {page later disk between},
      manner.leavesOut (page.migrate catalog manner.projectPrefix) = false →
      leave manner directory (page.migrate catalog manner.projectPrefix) disk = .ok between →
      motive later between → motive (page :: later) disk)
    (refused : ∀ {page later disk refusal},
      manner.leavesOut (page.migrate catalog manner.projectPrefix) = false →
      leave manner directory (page.migrate catalog manner.projectPrefix) disk = .error refusal →
      motive (page :: later) disk)
    (pages : List SourcePage) (disk : Disk) : motive pages disk := by
  induction pages generalizing disk with
  | nil => exact nil disk
  | cons page later ih =>
      cases ignored : manner.leavesOut (page.migrate catalog manner.projectPrefix) with
      | true => exact leftOut ignored (ih disk)
      | false =>
          cases step : leave manner directory (page.migrate catalog manner.projectPrefix) disk with
          | ok between => exact left ignored step (ih between)
          | error refusal => exact refused ignored step

end Steps

theorem kept_cons_of_leftOut
    (leftOut : manner.leavesOut (page.migrate catalog manner.projectPrefix) = true) :
    kept manner catalog (page :: later) = kept manner catalog later := by
  rw [Manner.leavesOut] at leftOut
  rw [kept, List.map_cons, List.filter_cons_of_neg (by rw [leftOut]; decide), kept]

theorem kept_cons_of_included
    (included : manner.leavesOut (page.migrate catalog manner.projectPrefix) = false) :
    kept manner catalog (page :: later) =
      page.migrate catalog manner.projectPrefix :: kept manner catalog later := by
  rw [Manner.leavesOut] at included
  rw [kept, List.map_cons, List.filter_cons_of_pos (by rw [included]; decide), kept]

variable (manner catalog directory) in
/-- The converted pages are the first of those that are to be converted, and all of them
when the run comes to its end. -/
theorem run_converted (pages : List SourcePage) (disk : Disk) :
    (run manner catalog directory pages disk).outcome.converted <+: kept manner catalog pages ∧
      ((run manner catalog directory pages disk).outcome.problem = none →
        (run manner catalog directory pages disk).outcome.converted =
          kept manner catalog pages) := by
  induction pages, disk using run_induction manner catalog directory with
  | nil disk => exact ⟨List.prefix_rfl, fun _ => rfl⟩
  | leftOut leftOut ih =>
      rwa [outcome_of_leftOut leftOut, kept_cons_of_leftOut leftOut]
  | left included left ih =>
      rw [outcome_of_left included left, kept_cons_of_included included]
      refine ⟨(List.prefix_cons_inj _).mpr ih.1, fun complete => ?_⟩
      exact congrArg _ (ih.2 complete)
  | refused included refused =>
      rw [outcome_of_refused included refused]
      refine ⟨List.nil_prefix, fun complete => ?_⟩
      cases complete

variable (manner catalog directory) in
/-- A run over more pages first does what the run over the front of them does. If that
comes to its end, it goes on from there, and otherwise it breaks off too. -/
theorem run_append (first second : List SourcePage) (disk : Disk) :
    (∀ refusal, (run manner catalog directory first disk).outcome.problem = some refusal →
      (run manner catalog directory (first ++ second) disk).outcome =
        (run manner catalog directory first disk).outcome) ∧
      ((run manner catalog directory first disk).outcome.problem = none →
        (run manner catalog directory (first ++ second) disk).outcome.converted =
          (run manner catalog directory first disk).outcome.converted ++
            (run manner catalog directory second
              (run manner catalog directory first disk).outcome.disk).outcome.converted) := by
  induction first, disk using run_induction manner catalog directory with
  | nil disk =>
      refine ⟨fun refusal broken => ?_, fun _ => rfl⟩
      cases broken
  | leftOut leftOut ih =>
      rwa [List.cons_append, outcome_of_leftOut leftOut, outcome_of_leftOut leftOut]
  | left included left ih =>
      rw [List.cons_append, outcome_of_left included left, outcome_of_left included left]
      refine ⟨fun refusal broken => ?_, fun complete => ?_⟩
      · rw [ih.1 refusal broken]
      · exact congrArg _ (ih.2 complete)
  | refused included refused =>
      rw [List.cons_append, outcome_of_refused included refused,
        outcome_of_refused included refused]
      refine ⟨fun _ _ => rfl, fun complete => ?_⟩
      cases complete

variable (manner catalog directory) in
/-- A run over the front of some pages converts what the run over all of them takes from
there. -/
theorem run_take (pages : List SourcePage) (count : Nat) (disk : Disk) :
    (run manner catalog directory (pages.take count) disk).outcome.converted =
      (run manner catalog directory pages disk).outcome.converted.take
        (kept manner catalog (pages.take count)).length := by
  obtain ⟨first, whole⟩ := run_converted manner catalog directory (pages.take count) disk
  obtain ⟨breaksOff, goesOn⟩ :=
    run_append manner catalog directory (pages.take count) (pages.drop count) disk
  rw [List.take_append_drop] at breaksOff goesOn
  cases ended : (run manner catalog directory (pages.take count) disk).outcome.problem with
  | some refusal =>
      rw [breaksOff refusal ended, List.take_of_length_le first.length_le]
  | none =>
      rw [goesOn ended, ← whole ended, List.take_left]

/-- A dry run comes to its end. -/
theorem problem_of_dryRun (dry : manner.dryRun = true) (pages : List SourcePage) (disk : Disk) :
    (run manner catalog directory pages disk).outcome.problem = none := by
  induction pages, disk using run_induction manner catalog directory with
  | nil disk => rfl
  | leftOut leftOut ih => rwa [outcome_of_leftOut leftOut]
  | left included left ih =>
      rw [outcome_of_left included left]
      exact ih
  | refused included refused =>
      rw [leave, dry, if_pos rfl] at refused
      cases refused

/-- A page that is left takes no other one its place. -/
theorem takesAs_of_leave {page : MigratedPage} {between : Disk}
    (left : leave manner directory page disk = .ok between) : between.TakesAs disk directory := by
  intro name
  rw [leave] at left
  split at left
  · cases left
    rfl
  · exact Disk.accepts_write left name

/-- Where as much is taken, a page that is left on one disk is left on the other. -/
theorem exists_leave {other : Manner} {page : MigratedPage} {first second between : Disk}
    (same : manner.dryRun = other.dryRun) (alike : first.TakesAs second directory)
    (left : leave manner directory page first = .ok between) :
    ∃ between', leave other directory page second = .ok between' := by
  rw [leave, same] at left
  rw [leave]
  cases dry : other.dryRun with
  | true => exact ⟨second, rfl⟩
  | false =>
      rw [dry, if_neg Bool.false_ne_true] at left
      rw [if_neg Bool.false_ne_true]
      exact (Disk.accepts_iff _).mp ((alike _).mp ((Disk.accepts_iff _).mpr ⟨between, left⟩))

/-- The way of going about the work, with ignored pages or without them. -/
def Manner.including (manner : Manner) (includeIgnored : Bool) : Manner :=
  { manner with includeIgnored }

theorem Manner.including_projectPrefix (manner : Manner) (includeIgnored : Bool) :
    (manner.including includeIgnored).projectPrefix = manner.projectPrefix := rfl

theorem Manner.leavesOut_including (manner : Manner) (includeIgnored : Bool)
    (page : MigratedPage) :
    (manner.including includeIgnored).leavesOut page = (page.isIgnored && !includeIgnored) := rfl

/-- Without the ignored pages a run goes as far as with them, and further only when one of
them would have ended it. -/
theorem run_including (manner : Manner) (catalog : Template.Catalog) (directory : Place)
    (pages : List SourcePage) {first second : Disk} (alike : first.TakesAs second directory) :
    ((run (manner.including true) catalog directory pages first).outcome.converted.filter
        (!·.isIgnored)) <+:
        (run (manner.including false) catalog directory pages second).outcome.converted ∧
      ((run (manner.including true) catalog directory pages first).outcome.problem = none →
        (run (manner.including false) catalog directory pages second).outcome.problem = none) := by
  induction pages, first using run_induction (manner.including true) catalog directory
      generalizing second with
  | nil disk => exact ⟨List.prefix_rfl, fun _ => rfl⟩
  | leftOut leftOut ih =>
      rw [Manner.leavesOut_including, Bool.not_true, Bool.and_false] at leftOut
      cases leftOut
  | @left page later first between included left ih =>
      have alike' := (takesAs_of_leave left).trans alike
      rw [outcome_of_left included left, Outcome.prepend, Manner.including_projectPrefix]
      dsimp only
      cases ignored : (page.migrate catalog manner.projectPrefix).isIgnored with
      | true =>
          have leftOut : (manner.including false).leavesOut
              (page.migrate catalog (manner.including false).projectPrefix) = true := by
            rw [Manner.leavesOut_including, Manner.including_projectPrefix, ignored]
            rfl
          rw [outcome_of_leftOut leftOut, List.filter_cons_of_neg (by simp [ignored])]
          exact ih alike'
      | false =>
          have included' : (manner.including false).leavesOut
              (page.migrate catalog (manner.including false).projectPrefix) = false := by
            rw [Manner.leavesOut_including, Manner.including_projectPrefix, ignored]
            rfl
          obtain ⟨between', left'⟩ : ∃ between', leave (manner.including false) directory
              (page.migrate catalog (manner.including false).projectPrefix) second =
                .ok between' := exists_leave rfl alike left
          have goesOn := ih (alike'.trans (takesAs_of_leave left').symm)
          rw [outcome_of_left included' left', List.filter_cons_of_pos (by simp [ignored])]
          exact ⟨(List.prefix_cons_inj _).mpr goesOn.1, goesOn.2⟩
  | refused included refused =>
      rw [outcome_of_refused included refused]
      refine ⟨List.nil_prefix, fun complete => ?_⟩
      cases complete

end Conversion

end DekiMigration
