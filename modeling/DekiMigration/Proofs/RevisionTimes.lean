/-
# Times of revisions

The time of a page's last revision is written three times: in the export, as the timestamp
that the wiki would keep of it, and in the record of the migrated page. Each is read from the
one before, and from the year 1000 on nothing of a time is lost between them.
-/

import DekiMigration.Proofs.ExportReading
import DekiMigration.Proofs.Timestamp.Iso

namespace DekiMigration

open Text Xml Calendar

namespace SourcePage

theorem created_migrate (page : SourcePage) (catalog : Template.Catalog) (projectPrefix : Text)
    (categories : List Text) :
    (page.migrate catalog projectPrefix categories).created =
      page.timestamp.bind Timestamp.read? := rfl

theorem lastModified_migrate (page : SourcePage) (catalog : Template.Catalog)
    (projectPrefix : Text) (categories : List Text) :
    (page.migrate catalog projectPrefix categories).lastModified =
      page.touched.bind Timestamp.read? := rfl

end SourcePage

namespace Export

/-- The time that is written for a revision is kept as the wiki would keep it. -/
theorem time?_of_written {revision : Element} {time : DateTime} {front back : Text}
    (late : 1000 ≤ time.year) (blankFront : ∀ c ∈ front, isBlank c)
    (blankBack : ∀ c ∈ back, isBlank c)
    (written : revision.textOf "timestamp".toList =
      front ++ (Timestamp.display ['Z'] time ++ back)) :
    time? revision = some (Timestamp.write time) := by
  rw [time?, written, Timestamp.Iso.read?_display blankFront blankBack, Option.map_some,
    Timestamp.Iso.compact_eq_write late]

/-- A page of an export keeps the time of its last revision, and so does the page that it is
migrated to. -/
theorem exists_read_migrate_time {document : Text} {page title revision : Element}
    {time : DateTime} {front back : Text} (listed : page ∈ readableElements document)
    (parts : titleAndRevision? page = some (title, revision)) (late : 1000 ≤ time.year)
    (blankFront : ∀ c ∈ front, isBlank c) (blankBack : ∀ c ∈ back, isBlank c)
    (written : revision.textOf "timestamp".toList =
      front ++ (Timestamp.display ['Z'] time ++ back)) :
    ∃ source ∈ (read document).pages, pageOf page = .ok (some source) ∧
      source.touched = some (Timestamp.write time) ∧
      source.timestamp = some (Timestamp.write time) ∧
      ∀ catalog projectPrefix categories,
        (source.migrate catalog projectPrefix categories).created = some time ∧
        (source.migrate catalog projectPrefix categories).lastModified = some time := by
  have time_eq := time?_of_written late blankFront blankBack written
  obtain ⟨source, read, ⟨-, -, -, touched, timestamp⟩⟩ := exists_pageOf listed parts
  rw [time_eq] at touched timestamp
  refine ⟨source, mem_pages_read.mpr ⟨page, listed, read⟩, read, touched, timestamp, ?_⟩
  intro catalog projectPrefix categories
  rw [SourcePage.created_migrate, SourcePage.lastModified_migrate, touched, timestamp,
    Option.bind_some, Timestamp.read?_write]
  exact ⟨rfl, rfl⟩

/-- The last second of a leap day. -/
def leapSecond : DateTime where
  year := 2008
  month := 2
  day := 29
  hour := 23
  minute := 59
  second := 59
  isDate := by decide
  isTime := by decide

/-- An export of a page with two revisions, the last of them made in the last second of a leap
day. -/
def leapDayExport : Text :=
  "<w><page><title>A</title>".toList ++
    "<revision><timestamp>2007-01-01T00:00:00Z</timestamp></revision>".toList ++
    "<revision><timestamp>\n 2008-02-29T23:59:59Z </timestamp></revision>".toList ++
    "</page></w>".toList

theorem exists_read_migrate_time_leapDay :
    1000 ≤ leapSecond.year ∧
      ∃ source ∈ (read leapDayExport).pages, source.touched = some "20080229235959".toList ∧
        source.timestamp = some "20080229235959".toList ∧
        (source.migrate .empty []).created = some leapSecond ∧
        (source.migrate .empty []).lastModified = some leapSecond := by
  have late : 1000 ≤ leapSecond.year := by decide
  generalize document_eq : leapDayExport = document
  have checked : (readableElements document).head?.any fun page =>
      (titleAndRevision? page).any fun parts => parts.2.textOf "timestamp".toList =
        "\n ".toList ++ (Timestamp.display ['Z'] leapSecond ++ " ".toList) := by
    rw [← document_eq]
    decide +kernel
  cases isFirst : (readableElements document).head? with
  | none =>
      rw [isFirst] at checked
      cases checked
  | some page =>
      rw [isFirst, Option.any_some] at checked
      cases parts : titleAndRevision? page with
      | none =>
          rw [parts] at checked
          cases checked
      | some found =>
          obtain ⟨title, revision⟩ := found
          rw [parts, Option.any_some, decide_eq_true_eq] at checked
          obtain ⟨source, listed, -, touched, timestamp, migrated⟩ := exists_read_migrate_time
            (List.mem_of_head? isFirst) parts late (by decide) (by decide) checked
          have written : Timestamp.write leapSecond = "20080229235959".toList := by decide
          rw [written] at touched timestamp
          exact ⟨late, source, listed, touched, timestamp, migrated _ _ _⟩

end Export

end DekiMigration
