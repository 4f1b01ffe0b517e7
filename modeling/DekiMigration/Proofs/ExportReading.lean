/-
# Reading an export

The pages of an export are those of its page elements that come before the first one that
cannot be read. Only numbers keep an element from being read. A number that is written plainly,
with digits and nothing else but a minus sign, is read unless it has too many digits.
-/

import Mathlib
import DekiMigration.Export
import DekiMigration.Proofs.Steps
import DekiMigration.Proofs.Text.Number

namespace DekiMigration

open Text Xml

namespace Text

/-- A literal without the minus sign that it may have in front. -/
def unsigned (literal : Text) : Text :=
  (dropLead? ['-'] literal).getD literal

/-- Nothing but digits, at least one, and a minus sign in front or none. -/
def IsPlainNumber (literal : Text) : Prop :=
  unsigned literal ≠ [] ∧ ∀ c ∈ unsigned literal, c.isDigit = true

instance (literal : Text) : Decidable (IsPlainNumber literal) :=
  inferInstanceAs (Decidable (_ ∧ _))

theorem unsigned_of_digits {digits : Text} (numeric : ∀ c ∈ digits, c.isDigit = true) :
    unsigned digits = digits := by
  cases signed : dropLead? ['-'] digits with
  | none => rw [unsigned, signed, Option.getD_none]
  | some rest =>
      rw [dropLead?_eq_some] at signed
      have sign := numeric '-' (signed ▸ List.mem_cons_self)
      cases sign

/-- A minus sign is told from the digits. -/
theorem IsPlainNumber.exists_takeSign {literal : Text} (plain : IsPlainNumber literal) :
    ∃ negative, takeSign (literal.dropWhile isNumberBlank) = (negative, unsigned literal) := by
  obtain ⟨nonempty, numeric⟩ := plain
  cases signed : dropLead? ['-'] literal with
  | some rest =>
      have behind : unsigned literal = rest := by
        rw [unsigned, signed, Option.getD_some]
      rw [behind, dropLead?_eq_some.mp signed]
      exact ⟨true, rfl⟩
  | none =>
      have whole : unsigned literal = literal := by
        rw [unsigned, signed, Option.getD_none]
      rw [whole] at numeric ⊢
      exact ⟨false, takeSign_of_isDigitLike fun c inside =>
        isDigitLike_of_isDecimal (isDecimal_of_isDigit (numeric c inside))⟩

/-- A plain number is read unless it has more digits than are ever read. -/
theorem IsPlainNumber.isOk_readInt {literal : Text} (plain : IsPlainNumber literal) :
    (readInt literal).isOk = true ↔ (unsigned literal).length ≤ maxDigits := by
  obtain ⟨negative, taken⟩ := plain.exists_takeSign
  have number : IsDecimalNumber (unsigned literal) :=
    ⟨plain.1, fun c inside => isDecimal_of_isDigit (plain.2 c inside)⟩
  rw [number.readInt_eq taken]
  by_cases long : maxDigits < (unsigned literal).length
  · simp [long, Except.isOk, Except.toBool]
  · simp [long, Except.isOk, Except.toBool, Nat.le_of_not_lt long]

end Text

namespace Export

/-- The identifier of the user who made a revision, as it is written. -/
def contributorId (revision : Element) : Text :=
  ((revision.child? "contributor".toList).map (·.textOf "id".toList)).getD []

/-- The numbers of a page are written plainly, or left out. -/
def HasPlainNumbers (page : Element) : Prop :=
  ∀ parts ∈ titleAndRevision? page,
    (page.textOf "ns".toList = [] ∨ IsPlainNumber (page.textOf "ns".toList)) ∧
    (page.textOf "id".toList = [] ∨ IsPlainNumber (page.textOf "id".toList)) ∧
    ∀ c ∈ contributorId parts.2, c.isDigit = true

/-- No number of a page has more digits than are ever read. -/
def HasShortNumbers (page : Element) : Prop :=
  ∀ parts ∈ titleAndRevision? page,
    (unsigned (page.textOf "ns".toList)).length ≤ maxDigits ∧
    (unsigned (page.textOf "id".toList)).length ≤ maxDigits ∧
    (contributorId parts.2).length ≤ maxDigits

instance (page : Element) : Decidable (HasPlainNumbers page) :=
  inferInstanceAs (Decidable (∀ parts ∈ titleAndRevision? page, _))

instance (page : Element) : Decidable (HasShortNumbers page) :=
  inferInstanceAs (Decidable (∀ parts ∈ titleAndRevision? page, _))

theorem isOk_number {literal : Text} (plain : literal = [] ∨ IsPlainNumber literal) :
    (number literal).isOk = true ↔ (unsigned literal).length ≤ maxDigits := by
  rcases plain with rfl | plain
  · exact iff_of_true rfl (Nat.zero_le _)
  · have nonempty : literal.isEmpty = false := by
      rw [List.isEmpty_eq_false_iff]
      rintro rfl
      exact plain.1 rfl
    rw [← plain.isOk_readInt, number, nonempty, if_neg Bool.false_ne_true]
    cases readInt literal <;> rfl

theorem isOk_user {revision : Element} (numeric : ∀ c ∈ contributorId revision, c.isDigit = true) :
    (user revision).isOk = true ↔ (contributorId revision).length ≤ maxDigits := by
  have digits : (contributorId revision).all isDigitLike = true := by
    rw [List.all_eq_true]
    exact fun c inside => isDigitLike_of_isDecimal (isDecimal_of_isDigit (numeric c inside))
  have whole := unsigned_of_digits numeric
  show (if _ then number (contributorId revision) else .ok 0).isOk = true ↔ _
  rw [← contributorId, digits, Bool.and_true]
  by_cases empty : contributorId revision = []
  · rw [empty]
    exact iff_of_true rfl (Nat.zero_le _)
  · have plain : IsPlainNumber (contributorId revision) := by
      rw [IsPlainNumber, whole]
      exact ⟨empty, numeric⟩
    have read := isOk_number (.inr plain)
    rw [whole] at read
    rw [List.isEmpty_eq_false_iff.mpr empty]
    exact read

/-- An element with a title and a revision holds a page when its numbers can be read. -/
theorem isOk_pageOf {page title revision : Element}
    (found : titleAndRevision? page = some (title, revision)) :
    (pageOf page).isOk = true ↔ (number (page.textOf "ns".toList)).isOk = true ∧
      (number (page.textOf "id".toList)).isOk = true ∧ (user revision).isOk = true := by
  rw [pageOf, found]
  dsimp only
  simp only [isOk_bind]
  constructor
  · rintro ⟨_, space, _, id, _, maker, -⟩
    exact ⟨isOk_iff.mpr ⟨_, space⟩, isOk_iff.mpr ⟨_, id⟩, isOk_iff.mpr ⟨_, maker⟩⟩
  · rintro ⟨space, id, maker⟩
    obtain ⟨_, space⟩ := isOk_iff.mp space
    obtain ⟨_, id⟩ := isOk_iff.mp id
    obtain ⟨_, maker⟩ := isOk_iff.mp maker
    exact ⟨_, space, _, id, _, maker, rfl⟩

/-- A page has what a revision says: its text, its comment, its maker and its time. -/
structure Carries (source : SourcePage) (revision : Element) : Prop where
  text : source.text = if (revision.textOf "text".toList).isEmpty then none
    else some (revision.textOf "text".toList)
  comment : source.comment = revision.textOf "comment".toList
  user : user revision = .ok source.user
  touched : source.touched = time? revision
  timestamp : source.timestamp = time? revision

/-- An element with a title and a revision holds a page that has what the revision says. -/
theorem exists_carries {page title revision : Element} {source? : Option SourcePage}
    (parts : titleAndRevision? page = some (title, revision)) (read : pageOf page = .ok source?) :
    ∃ source, source? = some source ∧ Carries source revision := by
  rw [pageOf, parts] at read
  simp only [bind_eq_ok] at read
  obtain ⟨_, -, _, -, _, maker, same⟩ := read
  cases same
  exact ⟨_, rfl, rfl, rfl, maker, rfl, rfl⟩

/-- With plain numbers an element can be read exactly when they are short. -/
theorem HasPlainNumbers.isOk_pageOf_iff {page : Element} (plain : HasPlainNumbers page) :
    (pageOf page).isOk = true ↔ HasShortNumbers page := by
  rw [HasShortNumbers]
  cases found : titleAndRevision? page with
  | none =>
      have skipped : pageOf page = .ok none := by
        rw [pageOf, found]
      rw [skipped]
      exact iff_of_true rfl (by simp)
  | some parts =>
      obtain ⟨space, id, maker⟩ := plain parts found
      rw [isOk_pageOf found, isOk_number space, isOk_number id, isOk_user maker]
      simp

/-- The page elements of a document. -/
def pageElements (document : Text) : List Element :=
  (Xml.read document).elements.filter (·.name = "page".toList)

/-- The page elements of a document that come before the first one that cannot be read. -/
def readableElements (document : Text) : List Element :=
  (pageElements document).takeWhile fun page => (pageOf page).isOk

theorem problem_ofElements_eq_none {elements : List Element} :
    (ofElements elements).problem = none ↔ ∀ page ∈ elements, (pageOf page).isOk = true := by
  induction elements with
  | nil => exact iff_of_true rfl (by simp)
  | cons page later ih =>
      rw [ofElements, List.forall_mem_cons]
      cases found : pageOf page with
      | error problem =>
          exact iff_of_false (by simp) fun all => Bool.false_ne_true all.1
      | ok source? =>
          exact ih.trans (and_iff_right rfl).symm

theorem mem_pages_ofElements {elements : List Element} {source : SourcePage} :
    source ∈ (ofElements elements).pages ↔
      ∃ page ∈ elements.takeWhile fun page => (pageOf page).isOk,
        pageOf page = .ok (some source) := by
  induction elements with
  | nil => simp [ofElements]
  | cons page later ih =>
      rw [ofElements]
      cases found : pageOf page with
      | error problem =>
          rw [List.takeWhile_cons_of_neg (by simp [found, Except.isOk, Except.toBool])]
          simp
      | ok source? =>
          rw [List.takeWhile_cons_of_pos (by simp [found, Except.isOk, Except.toBool])]
          simp [ih, found, eq_comm]

/-- The pages of an export are those of its elements up to the first that cannot be read. -/
theorem mem_pages_read {document : Text} {source : SourcePage} :
    source ∈ (read document).pages ↔
      ∃ page ∈ readableElements document, pageOf page = .ok (some source) := by
  rw [readableElements, ← mem_pages_ofElements, read]
  split <;> rfl

/-- The elements that hold pages hold one page each, in their order. -/
theorem forall₂_pages_ofElements (elements : List Element) :
    List.Forall₂ (fun page source => pageOf page = .ok (some source))
      ((elements.takeWhile fun page => (pageOf page).isOk).filter
        fun page => (titleAndRevision? page).isSome)
      (ofElements elements).pages := by
  induction elements with
  | nil => exact .nil
  | cons page later ih =>
      rw [ofElements]
      cases found : pageOf page with
      | error problem =>
          rw [List.takeWhile_cons_of_neg (by simp [found, Except.isOk, Except.toBool])]
          exact .nil
      | ok source? =>
          rw [List.takeWhile_cons_of_pos (by simp [found, Except.isOk, Except.toBool])]
          cases parts : titleAndRevision? page with
          | none =>
              rw [List.filter_cons_of_neg (by simp [parts])]
              rw [pageOf, parts] at found
              cases found
              exact ih
          | some both =>
              rw [List.filter_cons_of_pos (by simp [parts])]
              obtain ⟨source, rfl, -⟩ := exists_carries parts found
              exact .cons found ih

/-- The pages of an export are, in their order, those of its elements with a title and a
revision, up to the first element that cannot be read. -/
theorem forall₂_pages_read (document : Text) :
    List.Forall₂ (fun page source => pageOf page = .ok (some source))
      ((readableElements document).filter fun page => (titleAndRevision? page).isSome)
      (read document).pages := by
  have pages := forall₂_pages_ofElements (pageElements document)
  rw [read]
  split <;> exact pages

/-- A page that is read with a title and a revision has what the revision says. -/
theorem exists_pageOf {document : Text} {page title revision : Element}
    (readable : page ∈ readableElements document)
    (parts : titleAndRevision? page = some (title, revision)) :
    ∃ source, pageOf page = .ok (some source) ∧ Carries source revision := by
  have isOk : (pageOf page).isOk = true := List.all_eq_true.mp List.all_takeWhile page readable
  obtain ⟨source?, found⟩ := isOk_iff.mp isOk
  obtain ⟨source, rfl, carries⟩ := exists_carries parts found
  exact ⟨source, found, carries⟩

/-- An export is read to its end when it is well-formed and all its numbers can be read. -/
theorem problem_read_eq_none {document : Text} :
    (read document).problem = none ↔ (Xml.read document).isWellFormed = true ∧
      ∀ page ∈ pageElements document, (pageOf page).isOk = true := by
  rw [← problem_ofElements_eq_none, pageElements, read]
  generalize ofElements _ = found
  cases problem : found.problem <;> cases (Xml.read document).isWellFormed <;> simp [problem]

end Export

end DekiMigration
