/-
# Requests for conversion

A request for conversion carries its snippet as JSON. Nothing but the size of the content
stands between such a request and its conversion, so the call of a listed template is
resolved: all of a plain name that the passes take out is the mark that suppresses the table
of contents.
-/

import DekiMigration.Proofs.JsonTexts
import DekiMigration.Proofs.Markup.PlainCalls
import DekiMigration.Service

namespace DekiMigration.Service

open Text Validation

/-- A request asks for the conversion of a content that may call the templates with the given
names. -/
structure AsksFor (request : Request) (content : Text) (names : List Text) : Prop where
  method : request.method = "POST".toList
  path : request.path = "/api/v1/convert".toList
  isJson : request.isJson = true
  members : ∃ members, Json.read (Snippet.withoutMark request.body) = .ok (.object members) ∧
    Json.Value.member? members "content".toList = some (.string content) ∧
    Json.Value.member? members "templates".toList = some (.list (names.map .string)) ∧
    Json.Value.member? members "is_template".toList = none

/-- A content and the names of templates as JSON. -/
def writeSnippet (content : Text) (names : List Text) : Text :=
  '\x7b' :: (Json.writeText "content".toList ++ ':' :: (Json.writeText content ++
    ',' :: (Json.writeText "templates".toList ++ ':' :: '[' :: (Json.writeItems names ++
      [']', '\x7d']))))

/-- The request for the conversion of a content. -/
def snippetRequest (content : Text) (names : List Text) : Request where
  method := "POST".toList
  path := "/api/v1/convert".toList
  body := writeSnippet content names

open Json in
/-- What is written is read. -/
theorem read_writeSnippet (content : Text) (names : List Text) :
    Json.read (writeSnippet content names) =
      .ok (.object [(some "content".toList, .string content),
        (some "templates".toList, .list (names.map .string))]) := by
  have closing : HasTokens [']', '\x7d'] [.mark ']', .mark '\x7d'] :=
    (hasTokens_nil.mark (by simp)).mark (by simp)
  have listing := (closing.items names).mark (c := '[') (by simp)
  have templates := (listing.mark (c := ':') (by simp)).string "templates".toList
  have contents := (templates.mark (c := ',') (by simp)).string content
  have whole := ((contents.mark (c := ':') (by simp)).string "content".toList).mark
    (c := '\x7b') (by simp)
  have leads : Leads {} (.mark '\x7b' :: .string (some "content".toList) :: .mark ':' ::
      .string (some content) :: .mark ',' :: .string (some "templates".toList) :: .mark ':' ::
      .mark '[' :: (itemTokens names ++ [.mark ']', .mark '\x7d']))
      ⟨[], .delimiter, .object [(some "content".toList, .string content),
        (some "templates".toList, .list (names.map .string))]⟩ := by
    iterate 8 refine .cons _ (fun _ _ => rfl) ?_
    exact Leads.items (.cons _ (fun _ _ => rfl) (leads_nil _))
  exact read_of_leads whole leads rfl rfl

theorem asksFor_snippetRequest (content : Text) (names : List Text) :
    AsksFor (snippetRequest content names) content names := by
  refine ⟨rfl, rfl, rfl, _, read_writeSnippet content names, ?_, ?_, ?_⟩ <;> rfl

/-- The names that are not blank. -/
def visibleNames (names : List Text) : List Text :=
  names.filter fun name => !(trim name).isEmpty

theorem collect_names (names : List Text) (first : Nat) :
    Snippet.collect (((names.map Json.Value.string).zipIdx first).map fun (item, index) =>
      Snippet.check (Snippet.memberPlace "templates" ++ [ofNat index]) item Snippet.readText) =
        .ok names := by
  induction names generalizing first with
  | nil => rfl
  | cons name names ih =>
      rw [List.map_cons, List.zipIdx_cons, List.map_cons, Snippet.collect.eq_def]
      dsimp only
      rw [ih]
      rfl

/-- The snippet that a request asks to convert, if its content is not too long. -/
theorem ofRequest_of_asksFor {request : Request} {content : Text} {names : List Text}
    (asks : AsksFor request content names) :
    Snippet.ofRequest request =
      if Snippet.maxLength < content.length then
        .error (.objections [⟨⟨Snippet.memberPlace "content", .stringTooLong⟩, .string content⟩])
      else .ok { content := some content, templates := visibleNames names } := by
  obtain ⟨members, read, isContent, isNames, isMissing⟩ := asks.members
  have filled : request.body.isEmpty = false := by
    apply Bool.eq_false_iff.mpr
    intro empty
    rw [List.isEmpty_iff.mp empty] at read
    cases read
  have contents : Snippet.readContent (.string content) =
      if Snippet.maxLength < content.length then .error .stringTooLong
      else .ok (some content) := rfl
  have listed : Snippet.readNames (.list (names.map .string)) = .ok names := collect_names names 0
  rw [Snippet.ofRequest, filled, asks.isJson, read]
  show (Snippet.ofMembers members).mapError SnippetProblem.objections = _
  rw [Snippet.ofMembers]
  simp only [isContent, isNames, isMissing, Option.map_some, Option.map_none, Option.getD_some,
    Option.getD_none, listed, Snippet.check, contents]
  by_cases long : Snippet.maxLength < content.length
  · simp only [if_pos long]
    rfl
  · simp only [if_neg long]
    rfl

/-- The answer reports no call that is left open: its status is that of success, and its body
lists no magic words. -/
def Answer.ReportsNoCalls (answer : Answer) : Prop :=
  answer.status = 200 ∧ ∃ text,
    answer.body = some (Answer.object
      [("text", .string text), ("magic_words", Answer.texts [])])

theorem reportsNoCalls_converted {result : Markup.Transformed} :
    (Answer.converted result).ReportsNoCalls ↔ result.magicWords = [] := by
  constructor
  · rintro ⟨-, text, body⟩
    have members : result.text = text ∧ result.magicWords = [] := by
      simpa [Answer.body, Answer.object, Answer.texts] using body
    exact members.2
  · intro none
    exact ⟨rfl, result.text, by rw [Answer.body, none]⟩

theorem not_reportsNoCalls_invalid (defects : List Defect) :
    ¬ (Answer.invalid defects).ReportsNoCalls := by
  rintro ⟨status, -⟩
  cases status

theorem answer_of_asksFor (settings : Settings) (wiki : Wiki.Store) {request : Request}
    {content : Text} {names : List Text} (asks : AsksFor request content names) :
    answer settings wiki request =
      if Snippet.maxLength < content.length then
        .invalid [⟨Snippet.memberPlace "content", .stringTooLong⟩]
      else .converted
        (Markup.transformContent (some content) (.ofNames (visibleNames names)) false) := by
  have routed : Route.ofPath? request.path = some .convert := by
    rw [asks.path]
    decide
  have allowed : ¬ (request.method != Route.convert.method) = true := by
    rw [asks.method]
    decide
  simp only [answer, routed, if_neg allowed]
  rw [convert, ofRequest_of_asksFor asks]
  by_cases long : Snippet.maxLength < content.length
  · simp only [if_pos long]
    rfl
  · simp only [if_neg long]
    rfl

/-- A listed template is one that is not blank. -/
theorem mem_names_iff {name : Text} {names : List Text} (solid : IsSolid name) :
    name ∈ (Template.Catalog.ofNames (visibleNames names)).names ↔
      name ≠ [] ∧ name ∈ names := by
  rw [Template.Catalog.mem_ofNames, visibleNames, List.mem_filter, solid.trim_eq_self, and_comm]
  simp

open Markup in
/-- The call of a template by a plain name that is listed with low lines for its spaces leaves
nothing open exactly when it is short enough and either the name does not hold the mark that
suppresses the table of contents, or nothing is left without the mark, or what is left is
listed. -/
theorem reportsNoCalls_plainCall_iff (settings : Settings) (wiki : Wiki.Store) {request : Request}
    {name : Text} {names : List Text} (plain : IsPlainName name) (listed : lowLines name ∈ names)
    (asks : AsksFor request (plainCall name) names) :
    (answer settings wiki request).ReportsNoCalls ↔
      (plainCall name).length ≤ Snippet.maxLength ∧
        (HoldsLetters "__NOTOC__".toList name → unsuppressed name = [] ∨
          Template.normalizeName (unsuppressed name) ≠ [] ∧
            Template.normalizeName (unsuppressed name) ∈ names) := by
  rw [answer_of_asksFor settings wiki asks]
  by_cases long : Snippet.maxLength < (plainCall name).length
  · rw [if_pos long]
    exact iff_of_false (not_reportsNoCalls_invalid _) fun short => Nat.not_le_of_lt long short.1
  · rw [if_neg long, reportsNoCalls_converted, transformContent_eq, Option.getD_some,
      magicWords_plainCall_iff plain, mem_names_iff (Template.isSolid_normalizeName _)]
    constructor
    · exact fun resolved => ⟨Nat.not_lt.mp long, fun _ => resolved⟩
    · rintro ⟨-, left⟩
      by_cases suppressed : HoldsLetters "__NOTOC__".toList name
      · exact left suppressed
      · rw [unsuppressed_eq_self suppressed, plain.normalizeName_eq]
        refine .inr ⟨?_, listed⟩
        exact fun empty => plain.nonempty (List.map_eq_nil_iff.mp empty)

/-- A name with spaces and low lines. -/
def spacedName : Text := "Info box __TOC__2".toList

/-- A list with the name as it is looked up, behind a blank name. -/
def spelledNames : List Text := [[' '], "Info_box___TOC__2".toList]

open Markup in
theorem reportsNoCalls_plainCall_spacedName :
    IsPlainName spacedName ∧ lowLines spacedName ∈ spelledNames ∧
      AsksFor (snippetRequest (plainCall spacedName) spelledNames) (plainCall spacedName)
        spelledNames ∧
      (answer {} {} (snippetRequest (plainCall spacedName) spelledNames)).ReportsNoCalls := by
  have plain : IsPlainName spacedName :=
    ⟨by decide +kernel, by decide +kernel, by decide +kernel, by decide +kernel⟩
  have listed : lowLines spacedName ∈ spelledNames := by decide +kernel
  have asks := asksFor_snippetRequest (plainCall spacedName) spelledNames
  refine ⟨plain, listed, asks, ?_⟩
  rw [reportsNoCalls_plainCall_iff _ _ plain listed asks]
  exact ⟨by decide +kernel, fun suppressed => absurd suppressed (by decide +kernel)⟩

/-- A name that holds the mark. -/
def markedName : Text := "a__NOTOC__b".toList

open Markup in
/-- A listed name that holds the mark may be reported. -/
theorem not_reportsNoCalls_markedName :
    IsPlainName markedName ∧ markedName ∈ [markedName] ∧
      AsksFor (snippetRequest (plainCall markedName) [markedName]) (plainCall markedName)
        [markedName] ∧
      ¬ (answer {} {} (snippetRequest (plainCall markedName) [markedName])).ReportsNoCalls := by
  have plain : IsPlainName markedName :=
    ⟨by decide +kernel, by decide +kernel, by decide +kernel, by decide +kernel⟩
  have asks := asksFor_snippetRequest (plainCall markedName) [markedName]
  refine ⟨plain, List.mem_singleton_self _, asks, ?_⟩
  rw [answer_of_asksFor _ _ asks, if_neg (by decide +kernel), reportsNoCalls_converted]
  decide +kernel

end DekiMigration.Service
