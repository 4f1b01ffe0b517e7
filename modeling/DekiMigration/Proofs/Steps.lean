/-
# Steps that may fail

A computation in steps has a result when every step has one, and then its result is that of
the last step. It makes no difference to that how a failure is told.
-/

import Mathlib

namespace DekiMigration

variable {α β ε ε' : Type}

/-- With a further step there is a result when both steps have one. -/
theorem bind_eq_ok {first : Except ε α} {next : α → Except ε β} {result : β} :
    (first >>= next) = .ok result ↔ ∃ value, first = .ok value ∧ next value = .ok result := by
  cases first <;> simp [bind, Except.bind]

theorem mapError_eq_ok {computed : Except ε α} {tell : ε → ε'} {result : α} :
    computed.mapError tell = .ok result ↔ computed = .ok result := by
  cases computed <;> simp [Except.mapError]

theorem isOk_iff {computed : Except ε α} :
    computed.isOk = true ↔ ∃ value, computed = .ok value := by
  cases computed <;> simp [Except.isOk, Except.toBool]

theorem isOk_bind {first : Except ε α} {next : α → Except ε β} :
    (first >>= next).isOk = true ↔ ∃ value, first = .ok value ∧ (next value).isOk = true := by
  simp only [isOk_iff, bind_eq_ok]
  rw [exists_comm]
  simp only [exists_and_left]

/-- Values that are all there are there together. -/
theorem mapM_id_ok (items : List α) :
    (items.map (Except.ok : α → Except ε α)).mapM id = .ok items := by
  rw [List.mapM_map]
  exact List.mapM_pure.trans (congrArg _ (List.map_id items))

end DekiMigration
