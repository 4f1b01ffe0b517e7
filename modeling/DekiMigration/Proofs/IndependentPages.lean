/-
# Pages are read one by one

What is read of a page hangs on nothing but its element. The root is the last element to end
and is no page, whatever its name is: it has neither title nor revision, only pages. So pages
that stand behind others are read as if they stood alone, and a page without title or revision
might as well be missing.
-/

import DekiMigration.Proofs.EndOrder
import DekiMigration.Proofs.ExportReading
import DekiMigration.Proofs.Template

namespace DekiMigration.Export

open Text Xml

/-- A page element with no page element inside. -/
structure IsSinglePage (page : Element) : Prop where
  name : page.name = "page".toList
  inside : ∀ inner ∈ Element.endingsOf page.children, inner.name ≠ "page".toList

/-- A document whose root has the given pages as its children. -/
structure Holds (document : Text) (pages : List Element) : Prop where
  single : ∀ page ∈ pages, IsSinglePage page
  root : ∃ root, IsRootOf root document ∧ root.children = pages

/-- A page without title or without revision. -/
def IsIncomplete (page : Element) : Prop :=
  page.child? "title".toList = none ∨ page.childrenNamed "revision".toList = []

theorem IsSinglePage.filter_endings {page : Element} (single : IsSinglePage page) :
    page.endings.filter (·.name = "page".toList) = [page] := by
  have others : (Element.endingsOf page.children).filter (·.name = "page".toList) = [] := by
    rw [List.filter_eq_nil_iff]
    intro inner isInside
    simpa using single.inside inner isInside
  rw [Element.endings_eq, List.filter_append, others, List.nil_append, List.filter_singleton,
    decide_eq_true single.name]
  rfl

/-- Among pages that stand side by side and all that is inside them, the page elements are
these pages. -/
theorem filter_endingsOf {pages : List Element} (single : ∀ page ∈ pages, IsSinglePage page) :
    (Element.endingsOf pages).filter (·.name = "page".toList) = pages := by
  induction pages with
  | nil => rfl
  | cons page pages ih =>
      rw [List.forall_mem_cons] at single
      rw [Element.endingsOf, List.filter_append, single.1.filter_endings, ih single.2,
        List.singleton_append]

theorem isIncomplete_iff {page : Element} :
    IsIncomplete page ↔ titleAndRevision? page = none := by
  rw [IsIncomplete, titleAndRevision?, ← List.getLast?_eq_none_iff]
  generalize page.child? _ = title
  generalize List.getLast? _ = revision
  cases title <;> cases revision <;> simp

/-- Nothing is read of an incomplete page. -/
theorem ofElements_insert {page : Element} (incomplete : IsIncomplete page)
    (before after : List Element) :
    ofElements (before ++ page :: after) = ofElements (before ++ after) := by
  rw [isIncomplete_iff] at incomplete
  induction before with
  | nil =>
      rw [List.nil_append, List.nil_append, ofElements, pageOf, incomplete, noticesOf, incomplete]
      rfl
  | cons first before ih =>
      rw [List.cons_append, List.cons_append, ofElements, ofElements, ih]

/-- Elements that are read to their end are followed by what comes behind them. -/
theorem ofElements_append {first : List Element} (readable : (ofElements first).problem = none)
    (second : List Element) :
    ofElements (first ++ second) =
      { pages := (ofElements first).pages ++ (ofElements second).pages
        notices := (ofElements first).notices ++ (ofElements second).notices
        problem := (ofElements second).problem } := by
  induction first with
  | nil => rfl
  | cons page first ih =>
      rw [ofElements] at readable ⊢
      cases found : pageOf page with
      | error problem =>
          rw [found] at readable
          cases readable
      | ok source? =>
          rw [found] at readable
          simp only [List.cons_append, ofElements, found, ih readable, List.append_assoc]

/-- Of a document with pages just these are read. -/
theorem Holds.read_eq {document : Text} {pages : List Element} (holds : Holds document pages) :
    read document = ofElements pages := by
  obtain ⟨single, root, isRoot, rfl⟩ := holds
  have found : ofElements ((Xml.read document).elements.filter (·.name = "page".toList)) =
      ofElements root.children := by
    rw [isRoot.elements_eq, Element.endings_eq, List.filter_append, filter_endingsOf single]
    have untitled : root.child? "title".toList = none := by
      rw [Element.child?, List.find?_eq_none]
      intro page isChild
      rw [(single page isChild).name]
      decide
    have inserted := ofElements_insert (.inl untitled) root.children []
    rw [List.append_nil] at inserted
    rw [List.filter_singleton]
    cases decide (root.name = "page".toList) with
    | true => exact inserted
    | false => exact congrArg ofElements (List.append_nil _)
  rw [read, found, isRoot.isWellFormed]
  simp

theorem mem_catalog_append {found first second : Export} (name : Text)
    (pages : found.pages = first.pages ++ second.pages) :
    name ∈ found.catalog.names ↔ name ∈ first.catalog.names ∨ name ∈ second.catalog.names := by
  simp only [catalog, Template.Catalog.ofPages, Template.Catalog.mem_ofTitles, pages,
    List.filter_append, List.map_append, List.mem_append, or_and_right, exists_or]

/-- Pages are read independently of each other. When a document with some pages and one with
others are read to their end, so is one with the former followed by the latter: it has the
pages of both, and its catalog has the names of both. And with or without an incomplete page
anywhere among the others a document is read alike. -/
theorem read_independent :
    (∀ {first second both : Text} {pages others : List Element},
      Holds first pages → Holds second others → Holds both (pages ++ others) →
      (read first).problem = none → (read second).problem = none →
      (read both).problem = none ∧ (read both).pages = (read first).pages ++ (read second).pages ∧
        (read both).notices = (read first).notices ++ (read second).notices ∧
        ∀ name, name ∈ (read both).catalog.names ↔
          name ∈ (read first).catalog.names ∨ name ∈ (read second).catalog.names) ∧
    ∀ {longer shorter : Text} {before after : List Element} {page : Element},
      IsIncomplete page → Holds longer (before ++ page :: after) →
      Holds shorter (before ++ after) → read longer = read shorter := by
  constructor
  · intro first second both pages others holds holds' together readable readable'
    rw [holds.read_eq] at readable
    have appended := ofElements_append readable others
    rw [← together.read_eq, ← holds.read_eq, ← holds'.read_eq] at appended
    have pages_eq := congrArg Export.pages appended
    exact ⟨(congrArg Export.problem appended).trans readable', pages_eq,
      congrArg Export.notices appended, fun name => mem_catalog_append name pages_eq⟩
  · intro longer shorter before after page incomplete holds holds'
    rw [holds.read_eq, holds'.read_eq, ofElements_insert incomplete]

/-- A page that is a template. -/
def templatePage : Element where
  name := "page".toList
  text := []
  children := [⟨"title".toList, "T:A".toList, []⟩, ⟨"ns".toList, "10".toList, []⟩,
    ⟨"revision".toList, [], []⟩]

/-- A page with two revisions. -/
def revisedPage : Element where
  name := "page".toList
  text := []
  children := [⟨"revision".toList, [], []⟩, ⟨"title".toList, "B".toList, []⟩,
    ⟨"revision".toList, [], []⟩]

/-- A page with nothing in it. -/
def emptyPage : Element where
  name := "page".toList
  text := []
  children := []

/-- The template as it is written. -/
def writtenTemplate : Text :=
  "<page><title>T:A</title><ns>10</ns><revision/></page>".toList

/-- The page with two revisions as it is written. -/
def writtenRevised : Text :=
  "<page><revision/><title>B</title><revision/></page>".toList

/-- A document that is named like a page. -/
def templateDocument : Text :=
  "<page>".toList ++ writtenTemplate ++ "</page>".toList

def revisedDocument : Text :=
  "<w>".toList ++ writtenRevised ++ "</w>".toList

def bothDocument : Text :=
  "<w>".toList ++ writtenTemplate ++ writtenRevised ++ "</w>".toList

def longerDocument : Text :=
  "<w>".toList ++ writtenRevised ++ "<page/></w>".toList

theorem read_independent_templatePage :
    (Holds templateDocument [templatePage] ∧ Holds revisedDocument [revisedPage] ∧
        Holds bothDocument ([templatePage] ++ [revisedPage]) ∧
        Holds longerDocument ([revisedPage] ++ emptyPage :: [])) ∧
      (read templateDocument).problem = none ∧ (read revisedDocument).problem = none ∧
      IsIncomplete emptyPage ∧
      (read bothDocument).pages.map (·.title) = ["A".toList, "B".toList] ∧
      "Template:A".toList ∈ (read bothDocument).catalog.names ∧
      read longerDocument = read revisedDocument := by
  have single : ∀ page ∈ [templatePage, emptyPage, revisedPage], IsSinglePage page := by
    simp only [List.forall_mem_cons]
    exact ⟨⟨rfl, by decide⟩, ⟨rfl, by decide⟩, ⟨rfl, by decide⟩, by simp⟩
  have holds_of_root : ∀ {document name : Text} {pages : List Element},
      pages ⊆ [templatePage, emptyPage, revisedPage] →
      IsRootOf ⟨name, [], pages⟩ document → Holds document pages :=
    fun listed isRoot => ⟨fun page inside => single page (listed inside), _, isRoot, rfl⟩
  have holds : Holds templateDocument [templatePage] :=
    holds_of_root (by simp) (⟨by decide +kernel, rfl⟩ : IsRootOf ⟨"page".toList, _, _⟩ _)
  have holds' : Holds revisedDocument [revisedPage] :=
    holds_of_root (by simp) (⟨by decide +kernel, rfl⟩ : IsRootOf ⟨"w".toList, _, _⟩ _)
  have together : Holds bothDocument ([templatePage] ++ [revisedPage]) :=
    holds_of_root (by simp) (⟨by decide +kernel, rfl⟩ : IsRootOf ⟨"w".toList, _, _⟩ _)
  have inserted : Holds longerDocument ([revisedPage] ++ emptyPage :: []) :=
    holds_of_root (by simp) (⟨by decide +kernel, rfl⟩ : IsRootOf ⟨"w".toList, _, _⟩ _)
  have readable : (read templateDocument).problem = none := by decide +kernel
  have readable' : (read revisedDocument).problem = none := by decide +kernel
  have incomplete : IsIncomplete emptyPage := .inl rfl
  obtain ⟨apart, without⟩ := read_independent
  obtain ⟨-, pages, -, names⟩ := apart holds holds' together readable readable'
  refine ⟨⟨holds, holds', together, inserted⟩, readable, readable', incomplete, ?_, ?_,
    without incomplete inserted (by simpa using holds')⟩
  · rw [pages]
    decide +kernel
  · rw [names]
    decide +kernel

end DekiMigration.Export
