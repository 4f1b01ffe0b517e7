/-
# Texts

Page bodies, titles, template names and reports are all texts: finite sequences
of Unicode code points, kept as lists so that every pass over a text is a
recursion over its characters. This module holds the operations the rest of the
library shares: cutting a text at its first separator, splitting it into lines,
telling letters apart without regard to ASCII case, and writing numbers.
-/

namespace DekiMigration

/-- A text is a sequence of Unicode code points. -/
abbrev Text := List Char

namespace Text

section Decisions

-- Batteries decides a statement about characters over all code points; a bounded one is
-- decided along its bound.

variable (P : Char → Prop) [DecidablePred P]

instance (priority := high) (text : Text) : Decidable (∀ c ∈ text, P c) :=
  text.decidableBAll P

instance (priority := high) (text : Text) : Decidable (∃ c ∈ text, P c) :=
  text.decidableBEx P

instance (priority := high) (edge : Option Char) : Decidable (∀ c ∈ edge, P c) :=
  Option.decidableForallMem edge

instance (priority := high) (edge : Option Char) : Decidable (∃ c ∈ edge, P c) :=
  Option.decidableExistsMem edge

end Decisions

/-- The stretch up to a character does not hold it. -/
theorem not_mem_takeWhile_ne (c : Char) (text : Text) : c ∉ text.takeWhile (· != c) := by
  intro inside
  simpa using List.all_eq_true.mp List.all_takeWhile c inside

theorem takeWhile_ne_append_cons {c : Char} {front : Text} (absent : c ∉ front) (rest : Text) :
    (front ++ c :: rest).takeWhile (· != c) = front := by
  rw [List.takeWhile_append_of_pos]
  · simp
  · intro d inside
    simpa using fun same : d = c => absent (same ▸ inside)

theorem eq_of_mem_takeWhile_eq {c d : Char} {text : Text}
    (inside : d ∈ text.takeWhile (· == c)) : d = c := by
  simpa using List.all_eq_true.mp List.all_takeWhile d inside

/-- The text before the first `separator` and the text after it, when the
separator occurs at all. -/
def cutAt? (separator : Char) (text : Text) : Option (Text × Text) :=
  match text.span (· != separator) with
  | (before, _ :: after) => some (before, after)
  | (_, []) => none

/-- What is left of `text` once `lead` is removed from its front, provided the
text starts with it. -/
def dropLead? : (lead text : Text) → Option Text
  | [], text => some text
  | _ :: _, [] => none
  | c :: lead, d :: text => if c = d then dropLead? lead text else none

/-- What remains after a lead is what follows it. -/
theorem dropLead?_eq_some {lead text rest : Text} :
    dropLead? lead text = some rest ↔ text = lead ++ rest := by
  induction lead generalizing text with
  | nil => simp [dropLead?]
  | cons c lead ih =>
      cases text with
      | nil => simp [dropLead?]
      | cons d text =>
          by_cases same : c = d
          · simp [dropLead?, same, ih]
          · simp [dropLead?, same, Ne.symm same]

/-- The lines of a text: the stretches between its line feeds. A text without
line feed is one line, and a text that ends in one has an empty last line. -/
def lines (text : Text) : List Text :=
  text.splitOn '\n'

/-- Joins lines with line feeds between them. -/
def unlines (lines : List Text) : Text :=
  List.intercalate ['\n'] lines

theorem unlines_lines (text : Text) : unlines (lines text) = text :=
  List.intercalate_splitOn '\n'

/-- A line feed divides the lines. -/
theorem lines_append_feed (before after : Text) :
    lines (before ++ '\n' :: after) = lines before ++ lines after :=
  List.splitOn_append_cons_self before after

theorem lines_nil : lines [] = [[]] :=
  List.splitOn_nil '\n'

theorem lines_feed (rest : Text) : lines ('\n' :: rest) = [] :: lines rest :=
  lines_append_feed [] rest

theorem lines_cons {c : Char} (visible : c ≠ '\n') (rest : Text) :
    lines (c :: rest) = (lines rest).modifyHead (c :: ·) := by
  simp [lines, List.splitOn_cons_eq_if_modifyHead, visible]

theorem lines_of_inline {line : Text} (inline : '\n' ∉ line) : lines line = [line] :=
  List.splitOn_eq_singleton inline

/-- No line holds a line feed. -/
theorem inline_of_mem_lines {text line : Text} (isLine : line ∈ lines text) : '\n' ∉ line := by
  induction text generalizing line with
  | nil =>
      rw [lines_nil, List.mem_singleton] at isLine
      exact isLine ▸ List.not_mem_nil
  | cons c rest ih =>
      by_cases feed : c = '\n'
      · rw [feed, lines_feed] at isLine
        rcases List.mem_cons.mp isLine with rfl | later
        · exact List.not_mem_nil
        · exact ih later
      · rw [lines_cons feed] at isLine
        cases split : lines rest with
        | nil => simp [split] at isLine
        | cons first later =>
            rw [split, List.modifyHead_cons, List.mem_cons] at isLine
            rcases isLine with rfl | isLater
            · rw [List.mem_cons, not_or]
              exact ⟨Ne.symm feed, ih (split ▸ List.mem_cons_self)⟩
            · exact ih (split ▸ List.mem_cons_of_mem _ isLater)

/-- The text with a line feed for every carriage return and for every pair of a
carriage return and a line feed. -/
def joinLineEnds : Text → (done : Text := []) → Text
  | [], done => done.reverse
  | '\r' :: '\n' :: rest, done => joinLineEnds rest ('\n' :: done)
  | '\r' :: rest, done => joinLineEnds rest ('\n' :: done)
  | c :: rest, done => joinLineEnds rest (c :: done)

/-- The text with its ASCII capitals made small and all else kept. -/
def lower (text : Text) : Text :=
  text.map Char.toLower

/-- The text with its small ASCII letters made capital and all else kept. -/
def upper (text : Text) : Text :=
  text.map Char.toUpper

/-- Whether two texts agree up to the case of ASCII letters. -/
def sameLetters (first second : Text) : Bool :=
  lower first == lower second

/-- The decimal digits of a number, without leading zeros. -/
def ofNat (number : Nat) : Text :=
  Nat.toDigits 10 number

/-- The decimal digits of a number, after a minus sign when it is negative. -/
def ofInt : Int → Text
  | .ofNat number => ofNat number
  | .negSucc number => '-' :: ofNat (number + 1)

/-- The decimal digits of a number, filled up with leading zeros to `width`. -/
def padded (width number : Nat) : Text :=
  let digits := ofNat number
  List.replicate (width - digits.length) '0' ++ digits

/-- Whether a text comes no later than another in the order of their code points. -/
def precedes : (first second : Text) → Bool
  | [], _ => true
  | _ :: _, [] => false
  | c :: first, d :: second => if c = d then precedes first second else c.toNat < d.toNat

/-- Texts in increasing order of their code points. -/
def sort (texts : List Text) : List Text :=
  texts.mergeSort precedes

end Text

end DekiMigration
