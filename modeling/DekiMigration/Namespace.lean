/-
# Namespaces

Both wikis number their namespaces alike from 0 to 15; every other number is
invalid. Deki keeps some namespaces in its main tree, so the titles of their
pages get a prefix: the namespace's own label for talk, user and help pages, and
a configured one for pages about the project. Messages and categories have no
counterpart and are ignored.
-/

import DekiMigration.Text

namespace DekiMigration

/-- The namespaces of a wiki. -/
inductive Namespace where
  | invalid
  | main
  | talk
  | user
  | userTalk
  | project
  | projectTalk
  | image
  | imageTalk
  | messages
  | messagesTalk
  | template
  | templateTalk
  | help
  | helpTalk
  | category
  | categoryTalk
  deriving DecidableEq, Repr

namespace Namespace

/-- The namespaces that have a number of their own, in the order of their
numbers. -/
def numbered : List Namespace :=
  [main, talk, user, userTalk, project, projectTalk, image, imageTalk, messages, messagesTalk,
    template, templateTalk, help, helpTalk, category, categoryTalk]

/-- The number of a namespace; the invalid one has -1. -/
def number : Namespace → Int
  | invalid => -1
  | main => 0
  | talk => 1
  | user => 2
  | userTalk => 3
  | project => 4
  | projectTalk => 5
  | image => 6
  | imageTalk => 7
  | messages => 8
  | messagesTalk => 9
  | template => 10
  | templateTalk => 11
  | help => 12
  | helpTalk => 13
  | category => 14
  | categoryTalk => 15

/-- The namespace with a given number. -/
def ofNumber (number : Int) : Namespace :=
  if 0 ≤ number then (numbered[number.toNat]?).getD invalid else invalid

/-- The namespace with a given number, the invalid one without a number. -/
def ofOptionalNumber (number : Option Int) : Namespace :=
  (number.map ofNumber).getD invalid

@[deprecated ofOptionalNumber (since := "2026-11-19")]
abbrev ofNumber? := ofOptionalNumber

/-- The name a namespace is shown under. -/
def label : Namespace → Text
  | invalid => "Invalid".toList
  | main => "Main".toList
  | talk => "Talk".toList
  | user => "User".toList
  | userTalk => "User_talk".toList
  | project => "Project".toList
  | projectTalk => "Project_talk".toList
  | image => "Image".toList
  | imageTalk => "Image_talk".toList
  | messages => "Mediawiki".toList
  | messagesTalk => "Mediawiki_talk".toList
  | template => "Template".toList
  | templateTalk => "Template_talk".toList
  | help => "Help".toList
  | helpTalk => "Help_talk".toList
  | category => "Category".toList
  | categoryTalk => "Category_talk".toList

/-- The label in capitals, which identifies a namespace in lists of codes. -/
def code (space : Namespace) : Text :=
  Text.upper space.label

/-- The title prefix that pages about the project get by default. -/
def defaultProjectPrefix : Text := "Project_Mono_".toList

/-- What is put before the titles of a namespace's pages. -/
def titlePrefix (space : Namespace) (projectPrefix : Text) : Text :=
  match space with
  | talk | user | userTalk | help => space.label ++ ['_']
  | project => projectPrefix
  | _ => []

/-- Namespaces whose pages are not migrated. -/
def isIgnored : Namespace → Bool
  | messages | messagesTalk | category | categoryTalk => true
  | _ => false

/-- The numbers of the namespaces whose pages are not migrated. -/
def ignoredNumbers : List Int :=
  (numbered.filter isIgnored).map number

theorem ofNumber_number (space : Namespace) : ofNumber space.number = space := by
  cases space <;> decide

/-- A number that names a namespace is the number of that namespace. -/
theorem number_ofNumber {value : Int} (named : ofNumber value ≠ invalid) :
    (ofNumber value).number = value := by
  have inOrder : ∀ index < numbered.length,
      numbered[index]?.map number = some (Int.ofNat index) := by
    decide
  rw [ofNumber] at named ⊢
  split at named
  · next natural =>
      rw [if_pos natural]
      cases found : numbered[value.toNat]? with
      | none => simp [found] at named
      | some space =>
          obtain ⟨below, -⟩ := List.getElem?_eq_some_iff.mp found
          have same := inOrder value.toNat below
          rw [found, Option.map_some, Option.some.injEq] at same
          rw [Option.getD_some, same]
          exact Int.toNat_of_nonneg natural
  · exact absurd rfl named

/-- A number belongs to an ignored namespace exactly when the namespace that it stands for
is ignored. The invalid namespace, for which every unknown number stands, is not. -/
theorem mem_ignoredNumbers {value : Int} :
    value ∈ ignoredNumbers ↔ (ofNumber value).isIgnored = true := by
  simp only [ignoredNumbers, List.mem_map, List.mem_filter]
  constructor
  · rintro ⟨space, ⟨-, ignored⟩, rfl⟩
    rwa [ofNumber_number]
  · intro ignored
    have listed : ∀ space : Namespace, space.isIgnored = true → space ∈ numbered := by
      intro space
      cases space <;> decide
    have named : ofNumber value ≠ invalid := by
      intro unknown
      rw [unknown] at ignored
      cases ignored
    exact ⟨ofNumber value, ⟨listed _ ignored, ignored⟩, number_ofNumber named⟩

end Namespace

end DekiMigration
