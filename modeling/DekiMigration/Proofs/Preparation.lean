/-
# How a task is prepared

A command line that can be followed comes to a task when the settings can be read, the export
is found and it is known where the pages go. Otherwise the run ends before anything is
converted, and never normally.
-/

import DekiMigration.Program
import DekiMigration.Proofs.Steps

namespace DekiMigration.Program

open Text

variable {surroundings : Surroundings} {disk : Disk} {arguments : List Text}
  {options : CommandLine.Options} {task : Task}

/-- What the options of a command line and the place where it is given come to. -/
structure Prepares (surroundings : Surroundings) (disk : Disk) (options : CommandLine.Options)
    (task : Task) : Prop where
  options_eq : task.options = options
  settings : surroundings.settings disk = .ok task.settings
  source : findSource surroundings disk options.source = .ok task.source
  chosen : ∀ path, options.output.filter (!·.isEmpty) = some path →
    (Path.ofText path).start? surroundings.whereabouts = some task.output
  configured : options.output.filter (!·.isEmpty) = none →
    task.output = (if task.settings.outputDirectory.isAbsolute then []
      else surroundings.whereabouts.here, task.settings.outputDirectory.names)

/-- An export that is not found is no normal end. -/
theorem ending_of_findSource {path : Text} {ended : Run}
    (missed : findSource surroundings disk path = .error ended) : ended.ending ≠ .exit 0 := by
  rw [findSource] at missed
  split at missed
  · cases missed
    exact Ending.noConfusion
  · dsimp only at missed
    split at missed
    · cases missed
    · cases missed
      simp
    · cases missed
      exact Ending.noConfusion

theorem prepare_of_prepares (asked : CommandLine.read arguments = .ok options)
    (prepares : Prepares surroundings disk options task) :
    prepare surroundings disk arguments = .ok task := by
  obtain ⟨rfl, settings, source, chosen, configured⟩ := prepares
  have given : (surroundings.settings disk).mapError Failure.settings = .ok task.settings :=
    mapError_eq_ok.mpr settings
  rw [prepare, asked]
  simp only [given, source, ite_self]
  cases written : task.options.output.filter (!·.isEmpty) with
  | some path =>
      simp only [chosen path written]
      rfl
  | none =>
      simp only [bind, Except.bind, pure, Except.pure, Option.getD_none, ← configured written]

/-- A command line that can be followed comes to a task, or the run does not end normally. -/
theorem prepare_cases (asked : CommandLine.read arguments = .ok options) :
    (∃ task, prepare surroundings disk arguments = .ok task ∧
      Prepares surroundings disk options task) ∨
    ∃ ended, prepare surroundings disk arguments = .error ended ∧ ended.ending ≠ .exit 0 := by
  rw [prepare, asked]
  dsimp only
  cases given : (surroundings.settings disk).mapError Failure.settings with
  | error problem =>
      right
      cases options.verbose with
      | false => exact ⟨_, rfl, Ending.noConfusion⟩
      | true =>
          -- verbose runs look at the settings last
          cases source : findSource surroundings disk options.source with
          | error ended => exact ⟨ended, rfl, ending_of_findSource source⟩
          | ok place =>
              cases options.output.filter (!·.isEmpty) with
              | none => exact ⟨_, rfl, Ending.noConfusion⟩
              | some path =>
                  dsimp only
                  cases (Path.ofText path).start? surroundings.whereabouts with
                  | none => exact ⟨_, rfl, Ending.noConfusion⟩
                  | some output => exact ⟨_, rfl, Ending.noConfusion⟩
  | ok settings =>
      have known : surroundings.settings disk = .ok settings := mapError_eq_ok.mp given
      simp only [ite_self]
      cases source : findSource surroundings disk options.source with
      | error ended => exact .inr ⟨ended, rfl, ending_of_findSource source⟩
      | ok place =>
          cases written : options.output.filter (!·.isEmpty) with
          | none =>
              refine .inl ⟨_, rfl, rfl, known, source, fun path isPath => ?_, fun _ => rfl⟩
              cases written.symm.trans isPath
          | some path =>
              dsimp only
              cases start : (Path.ofText path).start? surroundings.whereabouts with
              | none => exact .inr ⟨_, rfl, Ending.noConfusion⟩
              | some output =>
                  refine .inl ⟨_, rfl, rfl, known, source, fun other isPath => ?_,
                    fun absent => ?_⟩
                  · cases written.symm.trans isPath
                    exact start
                  · cases written.symm.trans absent

/-- A run that ends normally, and not by telling of the program, has had a task. -/
theorem exists_prepares_of_ended (asked : CommandLine.read arguments = .ok options)
    (ended : (run surroundings disk arguments).ending = .exit 0) :
    ∃ task, prepare surroundings disk arguments = .ok task ∧
      Prepares surroundings disk options task := by
  rcases prepare_cases asked with found | ⟨early, prepared, other⟩
  · exact found
  · rw [run, prepared] at ended
    exact absurd ended other

end DekiMigration.Program
