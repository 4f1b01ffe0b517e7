/-
# What a response shows of a page

A client sees of a page what stands in the body of a response: the members of a JSON object,
each under its name. The list of pages has one such object for each page, and a page on its
own has a longer one. Either shows the page as it was migrated.
-/

import Mathlib.Data.List.Forall2
import DekiMigration.Service

namespace DekiMigration

namespace Json.Value

/-- What a value holds under a name, which is nothing unless it is an object. -/
def field? : Value → String → Option Value
  | object members, name => member? members name.toList
  | _, _ => none

end Json.Value

namespace Service

/-- A value shows a page as the list of pages does. -/
structure Outlines (shown : Json.Value) (page : MigratedPage) : Prop where
  id : shown.field? "id" = some (.integer page.id)
  number : shown.field? "namespace" = some (.integer page.namespaceNumber)
  label : shown.field? "deki_namespace" = some (.string page.space.label)
  title : shown.field? "title" = some (.string page.title)
  isIgnored : shown.field? "ignore" = some (.bool page.isIgnored)
  magicWords : shown.field? "magic_words" = some (.list (page.magicWords.map .string))

/-- A value shows a page as it is shown on its own, its categories left aside. -/
structure Portrays (shown : Json.Value) (page : MigratedPage) : Prop
    extends Outlines shown page where
  text : shown.field? "text" = some (.string page.text)
  comment : shown.field? "comment" = some (.string page.comment)
  user : shown.field? "user" = some (.integer page.user)
  lastModified : shown.field? "last_modified" = some (Answer.time page.lastModified)
  created : shown.field? "created" = some (Answer.time page.created)

theorem outlines_summary (page : MigratedPage) :
    Outlines (Answer.object (Answer.summary page)) page :=
  ⟨rfl, rfl, rfl, rfl, rfl, rfl⟩

theorem portrays_summary_particulars (page : MigratedPage) :
    Portrays (Answer.object (Answer.summary page ++ Answer.particulars page)) page :=
  ⟨⟨rfl, rfl, rfl, rfl, rfl, rfl⟩, rfl, rfl, rfl, rfl, rfl⟩

/-- The categories of a page have a member of their own, so the others show it alike whatever
they are. -/
theorem Portrays.of_categories {shown : Json.Value} {page other : MigratedPage}
    {categories : List Text} (portrays : Portrays shown page)
    (same : page = { other with categories }) : Portrays shown other := by
  subst same
  obtain ⟨⟨id, number, label, title, isIgnored, magicWords⟩, text, comment, user, lastModified,
    created⟩ := portrays
  exact ⟨⟨id, number, label, title, isIgnored, magicWords⟩, text, comment, user, lastModified,
    created⟩

/-- A response has the status of success and a body. -/
def Response.Gives (response : Response) (body : Json.Value) : Prop :=
  response.answer.status = 200 ∧ response.body = some body

/-- What the body of a response lists, which is nothing unless it is a list. -/
def Response.entries (response : Response) : List Json.Value :=
  match response.body with
  | some (.list entries) => entries
  | _ => []

theorem Response.Gives.entries_eq {response : Response} {entries : List Json.Value}
    (gives : response.Gives (.list entries)) : response.entries = entries := by
  rw [Response.entries, gives.2]

variable {settings : Settings} {store : Wiki.Store} {request : Request}

theorem body_respond (asked : request.method = "GET".toList) :
    (respond settings store request).body = (answer settings store request).body := by
  have full : ¬ request.method = "HEAD".toList := by
    rw [asked]
    decide
  exact if_neg full

/-- What an answer shows stands in the body of the response. -/
theorem gives_of_answer {body : Json.Value} (asked : request.method = "GET".toList)
    (succeeds : (answer settings store request).status = 200)
    (shows : (answer settings store request).body = some body) :
    (respond settings store request).Gives body :=
  ⟨succeeds, (body_respond asked).trans shows⟩

/-- The response shows a page that is answered. -/
theorem exists_gives_of_page {page : MigratedPage} (asked : request.method = "GET".toList)
    (answered : answer settings store request = .page page) :
    ∃ shown, (respond settings store request).Gives shown ∧ Portrays shown page := by
  refine ⟨_, gives_of_answer asked ?_ ?_, portrays_summary_particulars page⟩
  · rw [answered]
    rfl
  · rw [answered]
    rfl

/-- The response lists the pages that are answered, in the same order. -/
theorem exists_gives_of_pages {pages : List MigratedPage} (asked : request.method = "GET".toList)
    (answered : answer settings store request = .pages pages) :
    ∃ entries, (respond settings store request).Gives (.list entries) ∧
      List.Forall₂ Outlines entries pages := by
  refine ⟨pages.map fun page => Answer.object (Answer.summary page),
    gives_of_answer asked ?_ ?_, ?_⟩
  · rw [answered]
    rfl
  · rw [answered]
    rfl
  · rw [List.forall₂_map_left_iff]
    exact List.forall₂_same.mpr fun page _ => outlines_summary page

/-- The entries of a list give the numbers of its pages. -/
theorem ids_eq_of_forall₂ {entries : List Json.Value} {pages : List MigratedPage}
    (outlined : List.Forall₂ Outlines entries pages) :
    entries.map (·.field? "id") = (pages.map (·.id)).map fun id => some (.integer id) := by
  induction outlined with
  | nil => rfl
  | cons outlines _ ih =>
      rw [List.map_cons, List.map_cons, List.map_cons, outlines.id, ih]

end Service

end DekiMigration
