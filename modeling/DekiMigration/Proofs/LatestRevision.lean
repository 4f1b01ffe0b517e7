/-
# The revision that is kept

Of the revisions of a page an export reader keeps the one that is listed last, whatever their
times are. Whoever lists a history in the order of its times finds its latest revision kept;
a history that is listed in another order has the page at an earlier time.
-/

import DekiMigration.Proofs.RevisionTimes
import DekiMigration.Proofs.Timestamp.Instants

namespace DekiMigration.Export

open Text Xml Calendar

/-- The revisions of a page have times, each its own. -/
structure IsDated (revisions : List Element) (timeOf : Element → DateTime) : Prop where
  written : ∀ revision ∈ revisions,
    revision.textOf "timestamp".toList = Timestamp.display ['Z'] (timeOf revision)
  distinct : (revisions.map timeOf).Nodup

/-- A revision is the latest of several. -/
def IsLatest (revisions : List Element) (timeOf : Element → DateTime) (latest : Element) : Prop :=
  latest ∈ revisions ∧ ∀ revision ∈ revisions, (timeOf revision).seconds ≤ (timeOf latest).seconds

variable {page title revision : Element} {revisions : List Element} {timeOf : Element → DateTime}

theorem titleAndRevision?_eq (titled : page.child? "title".toList = some title)
    (last : (page.childrenNamed "revision".toList).getLast? = some revision) :
    titleAndRevision? page = some (title, revision) := by
  rw [titleAndRevision?, titled, last]
  rfl

theorem IsDated.time?_eq (dated : IsDated revisions timeOf) (listed : revision ∈ revisions) :
    time? revision = some (Timestamp.Iso.compact (timeOf revision)) := by
  have blankless : ∀ c ∈ ([] : Text), isBlank c := List.forall_mem_nil _
  have read := Timestamp.Iso.read?_display blankless blankless (timeOf revision)
  rw [List.nil_append, List.append_nil, ← dated.written revision listed] at read
  rw [time?, read, Option.map_some]

/-- Revisions are told by their times. -/
theorem IsDated.eq_of_seconds_eq (dated : IsDated revisions timeOf) {first second : Element}
    (listed : first ∈ revisions) (listed' : second ∈ revisions)
    (same : (timeOf first).seconds = (timeOf second).seconds) : first = second :=
  List.inj_on_of_nodup_map dated.distinct listed listed' (DateTime.seconds_injective same)

theorem IsDated.eq_of_carries (dated : IsDated revisions timeOf) {source : SourcePage}
    {first second : Element} (listed : first ∈ revisions) (listed' : second ∈ revisions)
    (carries : Carries source first) (carries' : Carries source second) : first = second := by
  have same := carries.timestamp.symm.trans carries'.timestamp
  rw [dated.time?_eq listed, dated.time?_eq listed', Option.some.injEq] at same
  exact List.inj_on_of_nodup_map dated.distinct listed listed'
    (Timestamp.Iso.compact_injective same)

theorem exists_isLatest (nonempty : revisions ≠ []) :
    ∃ latest, IsLatest revisions timeOf latest := by
  obtain ⟨some, listed⟩ := List.exists_mem_of_ne_nil revisions nonempty
  exact Set.exists_max_image {revision | revision ∈ revisions}
    (fun revision => (timeOf revision).seconds) revisions.finite_toSet ⟨some, listed⟩

/-- A page of an export has what its latest revision says exactly if the revision that is listed
last is the latest one. -/
theorem carries_latest_iff {document : Text} (readable : page ∈ readableElements document)
    (titled : page.child? "title".toList = some title)
    (last : (page.childrenNamed "revision".toList).getLast? = some revision)
    (dated : IsDated (page.childrenNamed "revision".toList) timeOf) :
    ∃ source ∈ (read document).pages, pageOf page = .ok (some source) ∧
      ((∀ latest, IsLatest (page.childrenNamed "revision".toList) timeOf latest →
          Carries source latest) ↔
        IsLatest (page.childrenNamed "revision".toList) timeOf revision) := by
  obtain ⟨source, found, carries⟩ := exists_pageOf readable (titleAndRevision?_eq titled last)
  have listed := List.mem_of_getLast? last
  refine ⟨source, mem_pages_read.mpr ⟨page, readable, found⟩, found, fun kept => ?_, ?_⟩
  · obtain ⟨latest, isLatest⟩ := exists_isLatest (List.ne_nil_of_mem listed)
    rw [dated.eq_of_carries listed isLatest.1 carries (kept latest isLatest)]
    exact isLatest
  · intro isLatest latest isLatest'
    have same := dated.eq_of_seconds_eq isLatest'.1 listed
      (Nat.le_antisymm (isLatest.2 latest isLatest'.1) (isLatest'.2 revision listed))
    rw [same]
    exact carries

instance (revisions : List Element) (timeOf : Element → DateTime) :
    Decidable (IsDated revisions timeOf) :=
  decidable_of_iff ((∀ revision ∈ revisions,
      revision.textOf "timestamp".toList = Timestamp.display ['Z'] (timeOf revision)) ∧
    (revisions.map timeOf).Nodup)
    ⟨fun ⟨written, distinct⟩ => ⟨written, distinct⟩, fun dated => ⟨dated.written, dated.distinct⟩⟩

/-- The time that is written for a revision. -/
def writtenTime (revision : Element) : DateTime :=
  (Timestamp.Iso.read? (revision.textOf "timestamp".toList)).getD leapSecond

/-- An export of one page, whose revisions have the given times and say in what year they were
made. -/
def historyExport (times : List Text) : Text :=
  "<w><page><title>A</title>".toList ++
    times.flatMap (fun time => "<revision><timestamp>".toList ++ time ++
      "</timestamp><contributor><id>".toList ++ time.take 4 ++
      "</id></contributor><comment>".toList ++ time.take 4 ++ "</comment><text>".toList ++
      time.take 4 ++ "</text></revision>".toList) ++ "</page></w>".toList

/-- The first page of an export, with its title and its last revision, when this can be found out
by reading. -/
theorem exists_history (document : Text) (holds : List Element → Element → Prop)
    [DecidableRel holds]
    (checked : (readableElements document).head?.any fun page =>
      (page.child? "title".toList).isSome ∧
        IsDated (page.childrenNamed "revision".toList) writtenTime ∧
        (page.childrenNamed "revision".toList).getLast?.any fun revision =>
          holds (page.childrenNamed "revision".toList) revision) :
    ∃ page title revision, page ∈ readableElements document ∧
      page.child? "title".toList = some title ∧
      (page.childrenNamed "revision".toList).getLast? = some revision ∧
      IsDated (page.childrenNamed "revision".toList) writtenTime ∧
      holds (page.childrenNamed "revision".toList) revision := by
  obtain ⟨page, isFirst, checked⟩ := (Option.any_eq_true _ _).mp checked
  obtain ⟨titled, dated, checked⟩ := of_decide_eq_true checked
  obtain ⟨title, titled⟩ := Option.isSome_iff_exists.mp titled
  obtain ⟨revision, last, checked⟩ := (Option.any_eq_true _ _).mp checked
  exact ⟨page, title, revision, List.mem_of_head? isFirst, titled, last, dated,
    of_decide_eq_true checked⟩

/-- A history in which only the latest revision is in its place. -/
theorem carries_latest_iff_unordered :
    ∃ page title revision, page ∈ readableElements (historyExport
        ["2008-02-29T23:59:59Z".toList, "2007-01-01T00:00:00Z".toList,
          "2009-05-06T07:08:09Z".toList]) ∧
      page.child? "title".toList = some title ∧
      (page.childrenNamed "revision".toList).getLast? = some revision ∧
      IsDated (page.childrenNamed "revision".toList) writtenTime ∧
      IsLatest (page.childrenNamed "revision".toList) writtenTime revision ∧
      ∃ source ∈ (read (historyExport ["2008-02-29T23:59:59Z".toList,
          "2007-01-01T00:00:00Z".toList, "2009-05-06T07:08:09Z".toList])).pages,
        Carries source revision := by
  generalize document_eq : historyExport _ = document
  obtain ⟨page, title, revision, readable, titled, last, dated, latest⟩ := exists_history document
    (fun revisions last => ∀ revision ∈ revisions,
      (writtenTime revision).seconds ≤ (writtenTime last).seconds) (by
        rw [← document_eq]
        decide +kernel)
  have isLatest : IsLatest (page.childrenNamed "revision".toList) writtenTime revision :=
    ⟨List.mem_of_getLast? last, latest⟩
  obtain ⟨source, isPage, -, kept⟩ := carries_latest_iff readable titled last dated
  exact ⟨page, title, revision, readable, titled, last, dated, isLatest, source, isPage,
    kept.mpr isLatest revision isLatest⟩

/-- A history that is listed newest first is kept as it was at its beginning. -/
theorem not_carries_latest_newestFirst :
    ∃ page title revision source, page ∈ readableElements (historyExport
        ["2009-05-06T07:08:09Z".toList, "2008-01-02T03:04:05Z".toList]) ∧
      page.child? "title".toList = some title ∧
      (page.childrenNamed "revision".toList).getLast? = some revision ∧
      IsDated (page.childrenNamed "revision".toList) writtenTime ∧
      pageOf page = .ok (some source) ∧ source.text = some "2008".toList ∧
      ¬ ∀ latest, IsLatest (page.childrenNamed "revision".toList) writtenTime latest →
        Carries source latest := by
  generalize document_eq : historyExport _ = document
  obtain ⟨page, title, revision, readable, titled, last, dated, text, earlier⟩ :=
    exists_history document (fun revisions last =>
      last.textOf "text".toList = "2008".toList ∧ ∃ revision ∈ revisions,
        (writtenTime last).seconds < (writtenTime revision).seconds) (by
          rw [← document_eq]
          decide +kernel)
  obtain ⟨source, found, carries⟩ := exists_pageOf readable (titleAndRevision?_eq titled last)
  have listed := List.mem_of_getLast? last
  refine ⟨page, title, revision, source, readable, titled, last, dated, found, ?_, fun kept => ?_⟩
  · rw [carries.text, text]
    rfl
  · obtain ⟨latest, isLatest⟩ := exists_isLatest (List.ne_nil_of_mem listed)
    rw [← dated.eq_of_carries listed isLatest.1 carries (kept latest isLatest)] at isLatest
    obtain ⟨other, isOther, later⟩ := earlier
    exact absurd (isLatest.2 other isOther) (Nat.not_le_of_lt later)

end DekiMigration.Export
