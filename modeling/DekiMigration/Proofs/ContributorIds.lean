/-
# Identifiers of contributors

The identifier of a contributor counts as zero unless it looks like a number. One that looks
like a number without being one, for a superscript or a circled digit among its digits, cannot
be read, and the reading of an export ends there. Nothing else that a contributor may be called
keeps a page from being read.
-/

import DekiMigration.Proofs.ExportReading

namespace DekiMigration.Export

open Text Xml

/-- A plain number that has not too many digits, or nothing. -/
def IsShortNumber (literal : Text) : Prop :=
  (literal = [] ∨ IsPlainNumber literal) ∧ (unsigned literal).length ≤ maxDigits

/-- The namespace and the number of a page can be read, and the identifier of its contributor
is not too long. -/
def IsOrdinary (page : Element) : Prop :=
  ∀ parts ∈ titleAndRevision? page,
    IsShortNumber (page.textOf "ns".toList) ∧ IsShortNumber (page.textOf "id".toList) ∧
    (contributorId parts.2).length ≤ maxDigits

/-- The contributor of a page has an identifier that looks like a number and is none. -/
def IsMisnumbered (page : Element) : Prop :=
  ∃ parts ∈ titleAndRevision? page, IsDeceptive (contributorId parts.2)

/-- A page that an element holds, made by nobody if the contributor has no number. -/
structure IsRecordOf (page : Element) (source : SourcePage) : Prop where
  holds : pageOf page = .ok (some source)
  nobody : ∀ parts ∈ titleAndRevision? page,
    ¬ IsDecimalNumber (contributorId parts.2) → source.user = 0

instance (literal : Text) : Decidable (IsShortNumber literal) :=
  inferInstanceAs (Decidable (_ ∧ _))

instance (page : Element) : Decidable (IsOrdinary page) :=
  inferInstanceAs (Decidable (∀ parts ∈ titleAndRevision? page, _))

instance (page : Element) : Decidable (IsMisnumbered page) :=
  inferInstanceAs (Decidable (∃ parts ∈ titleAndRevision? page, _))

variable {document : Text} {page revision : Element}

/-- An identifier has the number that its decimal digits write, or else none. What looks like
a number and is none is not read. -/
theorem user_eq (short : (contributorId revision).length ≤ maxDigits) :
    user revision =
      if IsDeceptive (contributorId revision) then
        .error (.unreadableNumber (contributorId revision) .malformed)
      else if IsDecimalNumber (contributorId revision) then
        .ok (numberOf (contributorId revision))
      else .ok 0 := by
  show (if _ then number (contributorId revision) else .ok 0) = _
  rw [← contributorId]
  generalize contributorId revision = id at short ⊢
  by_cases nothing : id = []
  · subst nothing
    rfl
  rw [number, List.isEmpty_eq_false_iff.mpr nothing, Bool.not_false, Bool.true_and,
    if_neg Bool.false_ne_true]
  by_cases deceptive : IsDeceptive id
  · rw [if_pos (List.all_eq_true.mpr deceptive.1), deceptive.readInt_eq short, if_pos deceptive]
    rfl
  rw [if_neg deceptive]
  by_cases decimal : IsDecimalNumber id
  · have digital : ∀ c ∈ id, isDigitLike c = true :=
      fun c inside => isDigitLike_of_isDecimal (decimal.2 c inside)
    rw [if_pos (List.all_eq_true.mpr digital),
      decimal.readInt_eq (takeSign_of_isDigitLike digital), if_neg (Nat.not_lt.mpr short),
      if_pos decimal]
    rfl
  · have other : ¬ id.all isDigitLike = true := fun digital =>
      deceptive ⟨List.all_eq_true.mp digital, fun decimals => decimal ⟨nothing, decimals⟩⟩
    rw [if_neg other, if_neg decimal]

theorem isOk_user_iff (short : (contributorId revision).length ≤ maxDigits) :
    (user revision).isOk = true ↔ ¬ IsDeceptive (contributorId revision) := by
  rw [user_eq short]
  split
  · next deceptive => exact iff_of_false Bool.false_ne_true (not_not_intro deceptive)
  · next numbered => split <;> exact iff_of_true rfl numbered

/-- Only the contributor can keep a page from being read. -/
theorem IsOrdinary.isOk_pageOf_iff (ordinary : IsOrdinary page) :
    (pageOf page).isOk = true ↔ ¬ IsMisnumbered page := by
  cases found : titleAndRevision? page with
  | none =>
      have skipped : pageOf page = .ok none := by
        rw [pageOf, found]
      rw [skipped]
      exact iff_of_true rfl (by simp [IsMisnumbered, found])
  | some parts =>
      obtain ⟨space, id, short⟩ := ordinary parts found
      have misnumbered : IsMisnumbered page ↔ IsDeceptive (contributorId parts.2) := by
        simp [IsMisnumbered, found]
      rw [isOk_pageOf found, isOk_number space.1, isOk_number id.1, isOk_user_iff short,
        misnumbered]
      exact ⟨fun readable => readable.2.2, fun numbered => ⟨space.2, id.2, numbered⟩⟩

theorem IsOrdinary.isRecordOf (ordinary : IsOrdinary page) {source : SourcePage}
    (holds : pageOf page = .ok (some source)) : IsRecordOf page source := by
  refine ⟨holds, fun parts found other => ?_⟩
  obtain ⟨source', same, carries⟩ := exists_carries found holds
  cases same
  have maker := carries.user
  rw [user_eq (ordinary parts found).2.2] at maker
  rw [if_neg other] at maker
  split at maker
  · cases maker
  · exact (Except.ok.inj maker).symm

/-- A well-formed export is read to its end, with a page for each element that has a title and
a revision, exactly if no contributor is misnumbered. -/
theorem read_complete_iff (wellFormed : (Xml.read document).isWellFormed = true)
    (ordinary : ∀ page ∈ pageElements document, IsOrdinary page) :
    ((read document).problem = none ∧
        List.Forall₂ IsRecordOf
          ((pageElements document).filter fun page => (titleAndRevision? page).isSome)
          (read document).pages) ↔
      ∀ page ∈ pageElements document, ¬ IsMisnumbered page := by
  have readable : (read document).problem = none ↔
      ∀ page ∈ pageElements document, ¬ IsMisnumbered page := by
    rw [problem_read_eq_none, and_iff_right wellFormed]
    exact forall₂_congr fun page listed => (ordinary page listed).isOk_pageOf_iff
  rw [readable]
  refine and_iff_left_of_imp fun numbered => ?_
  have whole : readableElements document = pageElements document :=
    List.takeWhile_eq_self_iff.mpr fun page listed =>
      (ordinary page listed).isOk_pageOf_iff.mpr (numbered page listed)
  have records := forall₂_pages_read document
  rw [whole] at records
  rw [List.forall₂_iff_zip] at records ⊢
  refine ⟨records.1, fun inside => ?_⟩
  have listed := (List.mem_filter.mp (List.of_mem_zip inside).1).1
  exact (ordinary _ listed).isRecordOf (records.2 inside)

/-- An export with a page for each of the given contributors. -/
def contributorsExport (ids : List Text) : Text :=
  "<w>".toList ++
    ids.flatMap (fun id => "<page><title>A</title><ns>0</ns><id>1</id><revision>".toList ++
      "<contributor><id>".toList ++ id ++ "</id></contributor></revision></page>".toList) ++
    "</w>".toList

/-- Contributors with an ASCII number, an address, no number and a number in Arabic digits. -/
theorem read_complete_iff_ordinary :
    (Xml.read (contributorsExport
        ["7".toList, "10.0.0.1".toList, [], "٤٢".toList])).isWellFormed = true ∧
      (∀ page ∈ pageElements (contributorsExport
        ["7".toList, "10.0.0.1".toList, [], "٤٢".toList]), IsOrdinary page) ∧
      (read (contributorsExport
        ["7".toList, "10.0.0.1".toList, [], "٤٢".toList])).problem = none ∧
      (read (contributorsExport
        ["7".toList, "10.0.0.1".toList, [], "٤٢".toList])).pages.map (·.user) = [7, 0, 0, 42] := by
  generalize document_eq : contributorsExport _ = document
  have wellFormed : (Xml.read document).isWellFormed = true := by
    rw [← document_eq]
    decide +kernel
  have ordinary : ∀ page ∈ pageElements document, IsOrdinary page := by
    rw [← document_eq]
    decide +kernel
  have numbered : ∀ page ∈ pageElements document, ¬ IsMisnumbered page := by
    rw [← document_eq]
    decide +kernel
  have users : (read document).pages.map (·.user) = [7, 0, 0, 42] := by
    rw [← document_eq]
    decide +kernel
  exact ⟨wellFormed, ordinary, ((read_complete_iff wellFormed ordinary).mpr numbered).1, users⟩

/-- After a contributor who is called by a superscript nothing is read. -/
theorem not_read_complete_superscript :
    (Xml.read (contributorsExport ["²".toList, "7".toList])).isWellFormed = true ∧
      (∀ page ∈ pageElements (contributorsExport ["²".toList, "7".toList]), IsOrdinary page) ∧
      (read (contributorsExport ["²".toList, "7".toList])).pages.length = 0 ∧
      (read (contributorsExport ["²".toList, "7".toList])).problem =
        some (.unreadableNumber "²".toList .malformed) ∧
      ¬ ((read (contributorsExport ["²".toList, "7".toList])).problem = none ∧
        List.Forall₂ IsRecordOf
          ((pageElements (contributorsExport ["²".toList, "7".toList])).filter
            fun page => (titleAndRevision? page).isSome)
          (read (contributorsExport ["²".toList, "7".toList])).pages) := by
  generalize document_eq : contributorsExport _ = document
  have problem : (read document).problem = some (.unreadableNumber "²".toList .malformed) := by
    rw [← document_eq]
    decide +kernel
  refine ⟨?_, ?_, ?_, problem, fun complete => ?_⟩
  · rw [← document_eq]
    decide +kernel
  · rw [← document_eq]
    decide +kernel
  · rw [← document_eq]
    decide +kernel
  · rw [problem] at complete
    cases complete.1

end DekiMigration.Export
