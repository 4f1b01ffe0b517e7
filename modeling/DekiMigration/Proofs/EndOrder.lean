/-
# The order in which elements end

An element ends behind all its descendants. While a document is read, the elements that are
complete are the descendants of those that are open: first what stands in the outermost, and
so on inwards. Every token keeps that, and so does every replacement of an entity. When a
well-formed document has been read, its elements are those of one tree, the root last.
-/

import DekiMigration.Proofs.Steps
import DekiMigration.Xml.Document

namespace DekiMigration.Xml

open Text

namespace Element

mutual

/-- An element and its descendants, in the order in which they end. -/
def endings : Element → List Element
  | ⟨name, text, children⟩ => endingsOf children ++ [⟨name, text, children⟩]

/-- Elements that stand side by side and their descendants, in the order in which they end. -/
def endingsOf : List Element → List Element
  | [] => []
  | element :: others => element.endings ++ endingsOf others

end

theorem endings_eq (element : Element) :
    element.endings = endingsOf element.children ++ [element] := by
  cases element
  rw [endings]

theorem endingsOf_append (first second : List Element) :
    endingsOf (first ++ second) = endingsOf first ++ endingsOf second := by
  induction first with
  | nil => rfl
  | cons element first ih => rw [List.cons_append, endingsOf, endingsOf, ih, List.append_assoc]

theorem endingsOf_singleton (element : Element) : endingsOf [element] = element.endings := by
  rw [endingsOf, endingsOf, List.append_nil]

end Element

open Element

/-- The complete descendants of open elements, innermost first. -/
def descendants : List OpenElement → List Element
  | [] => []
  | element :: around => descendants around ++ endingsOf element.children.reverse

namespace Progress

/-- The complete elements are the descendants of the open ones, or of the root when that is
complete as well. -/
inductive IsOrderly (progress : Progress) : Prop where
  | inside (complete : progress.complete.reverse = descendants progress.opened)
  | behind (root : Element) (opened : progress.opened = [])
      (complete : progress.complete.reverse = root.endings)

variable {progress : Progress}

theorem isOrderly_initial : IsOrderly {} :=
  .inside rfl

/-- Text changes nothing about the children. -/
theorem IsOrderly.addText (orderly : progress.IsOrderly) (text : Text) :
    (progress.addText text).IsOrderly := by
  obtain ⟨opened, complete⟩ := progress
  cases opened with
  | nil => exact orderly
  | cons element around =>
      rw [Progress.addText]
      dsimp only
      split
      · cases orderly with
        | inside same => exact .inside same
        | behind root closed => cases closed
      · exact orderly

/-- An element that is opened has no children yet. Behind the root none is opened. -/
theorem IsOrderly.enter (orderly : progress.IsOrderly) {declarations : Declarations} {tag : Tag}
    {inside : Progress} (entered : progress.enter? declarations tag = some inside) :
    inside.IsOrderly := by
  simp only [enter?, Option.bind_eq_bind, Option.bind_eq_some_iff] at entered
  obtain ⟨values, -, scope, -, made⟩ := entered
  split at made
  · cases made
  · next allowed =>
      cases made
      cases orderly with
      | inside same => exact .inside (same.trans (List.append_nil _).symm)
      | behind root opened complete =>
          have filled : progress.complete ≠ [] := by
            intro empty
            rw [empty, endings_eq] at complete
            simp at complete
          simp [opened, filled] at allowed

/-- The element that is closed ends behind its descendants. -/
theorem IsOrderly.leave (orderly : progress.IsOrderly) : progress.leave.IsOrderly := by
  obtain ⟨opened, complete⟩ := progress
  rcases opened with _ | ⟨element, around⟩
  · exact orderly
  cases orderly with
  | behind root closed => cases closed
  | inside same =>
      have ended : (element.close :: complete).reverse =
          descendants around ++ element.close.endings := by
        rw [List.reverse_cons, show complete.reverse = _ from same, descendants, endings_eq,
          List.append_assoc]
        rfl
      cases around with
      | nil => exact .behind element.close rfl ended
      | cons parent around =>
          refine .inside (ended.trans ?_)
          show descendants (parent :: around) ++ element.close.endings =
            descendants around ++ endingsOf (element.close :: parent.children).reverse
          rw [descendants, List.reverse_cons, endingsOf_append, endingsOf_singleton,
            List.append_assoc]

/-- What every token keeps, a run keeps: the tokens of a replacement are a run of their own. -/
theorem IsOrderly.run {declarations : Declarations} {depth : Nat} {underway : List Text}
    {floor : Nat} {tokens : List Token} {after : Progress} (orderly : progress.IsOrderly)
    (ran : run declarations depth underway floor tokens progress = .ok after) :
    after.IsOrderly := by
  -- the depth bounds the replacements that are read inside each other
  induction depth generalizing underway floor tokens progress after with
  | zero => cases ran
  | succ depth replacement =>
      rw [Progress.run] at ran
      induction tokens generalizing progress with
      | nil =>
          cases ran
          exact orderly
      | cons token tokens ih =>
          rw [List.foldlM_cons, bind_eq_ok] at ran
          obtain ⟨next, here, later⟩ := ran
          refine ih ?_ later
          cases token with
          | aside =>
              cases here
              exact orderly
          | plain text =>
              dsimp only at here
              split at here <;> cases here
              exact orderly.addText text
          | given text =>
              dsimp only at here
              split at here <;> cases here
              exact orderly.addText text
          | opening tag =>
              dsimp only at here
              split at here <;> cases here
              next inside entered =>
                split
                · exact (orderly.enter entered).leave
                · exact orderly.enter entered
          | closing name =>
              dsimp only at here
              split at here <;> cases here
              exact orderly.leave
          | entity name =>
              dsimp only at here
              split at here
              · split at here
                · cases here
                · split at here
                  · next inner ran =>
                    split at here <;> cases here
                    exact replacement orderly ran
                  · cases here
              · cases here

end Progress

/-- The elements of a well-formed document are those of one tree. -/
theorem exists_endings {document : Text} (isWellFormed : (read document).isWellFormed = true) :
    ∃ root : Element, (read document).elements = root.endings := by
  rw [read] at isWellFormed ⊢
  cases found : prolog? (joinLineEnds document) with
  | none =>
      rw [found] at isWellFormed
      cases isWellFormed
  | some parts =>
      obtain ⟨declarations, contents⟩ := parts
      rw [found] at isWellFormed
      dsimp only at isWellFormed ⊢
      cases ran : Progress.run declarations (declarations.declared.length + 1) [] 0
          (Token.readAll contents).1 {} with
      | error progress =>
          rw [ran] at isWellFormed
          cases isWellFormed
      | ok progress =>
          rw [ran] at isWellFormed
          dsimp only at isWellFormed ⊢
          simp only [Bool.and_eq_true, Bool.not_eq_true', List.isEmpty_iff,
            List.isEmpty_eq_false_iff] at isWellFormed
          obtain ⟨⟨-, closed⟩, nonempty⟩ := isWellFormed
          cases Progress.isOrderly_initial.run ran with
          | inside complete =>
              rw [closed, descendants, List.reverse_eq_nil_iff] at complete
              exact absurd complete nonempty
          | behind root _ complete => exact ⟨root, complete⟩

/-- A document is well-formed and has a root. -/
structure IsRootOf (root : Element) (document : Text) : Prop where
  isWellFormed : (read document).isWellFormed = true
  last : (read document).elements.getLast? = some root

/-- The elements of a document are its root and the descendants of it, in the order in which
they end. -/
theorem IsRootOf.elements_eq {root : Element} {document : Text}
    (isRoot : IsRootOf root document) : (read document).elements = root.endings := by
  obtain ⟨other, elements⟩ := exists_endings isRoot.isWellFormed
  have last := isRoot.last
  rw [elements, endings_eq, List.getLast?_concat, Option.some.injEq] at last
  rw [elements, last]

end DekiMigration.Xml
