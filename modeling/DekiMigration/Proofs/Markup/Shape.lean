/-
# The shapes of matches

What a pass changes has a shape: a link stands in brackets, a call in braces, a table
between its marks, and a heading between signs. This module reads the shapes off the
patterns, and says of the changed links and headings which parts they are put together
from. Later arguments about a pass start from here and do not look into the search again.
-/

import DekiMigration.Markup.Heading
import DekiMigration.Markup.Link
import DekiMigration.Markup.Table
import DekiMigration.Proofs.Markup.Walk
import DekiMigration.Proofs.Text.Parts

namespace DekiMigration.Markup

open Text

variable {lineStart : Bool} {lexeme after : Text}

/-- What the search says of the text ahead it says of the match. -/
private theorem lexeme_eq {stretch : Text} {length : Nat} (after rest : Text)
    (text_eq : lexeme ++ after = stretch ++ rest) (length_eq : lexeme.length = length)
    (width : length = stretch.length) : lexeme = stretch :=
  (List.append_inj text_eq (length_eq.trans width)).1

/-- A link is a stretch of one line in single or double brackets. -/
theorem link_shape (matched : link.Matches lineStart lexeme after) :
    ∃ body, body ≠ [] ∧ '\n' ∉ body ∧
      (lexeme = '[' :: '[' :: (body ++ [']', ']']) ∨ lexeme = '[' :: (body ++ [']'])) := by
  obtain ⟨-, found⟩ := matched
  simp only [link, Option.orElse_eq_orElse, Option.orElse_eq_or, Option.or_eq_some_iff] at found
  have inline : ∀ {c : Char} {inner : Text}, (∀ d ∈ c :: inner, (d != '\n') = true) →
      '\n' ∉ c :: inner := fun visible inside => by simpa using visible '\n' inside
  rcases found with double | ⟨-, single⟩
  · obtain ⟨c, inner, rest, text_eq, length_eq, visible, -⟩ := enclosedLength?_eq_some.mp double
    refine ⟨c :: inner, by simp, inline visible, .inl ?_⟩
    exact lexeme_eq after rest (text_eq.trans (by simp)) length_eq (by simp; omega)
  · obtain ⟨c, inner, rest, text_eq, length_eq, visible, -⟩ := enclosedLength?_eq_some.mp single
    refine ⟨c :: inner, by simp, inline visible, .inr ?_⟩
    exact lexeme_eq after rest (text_eq.trans (by simp)) length_eq (by simp; omega)

theorem link_head (matched : link.Matches lineStart lexeme after) : lexeme.head? = some '[' := by
  obtain ⟨body, -, -, rfl | rfl⟩ := link_shape matched <;> rfl

theorem link_passesOver {stretch : Text} (foreign : '[' ∉ stretch) : link.PassesOver stretch :=
  Pattern.passesOver_of_head link_head foreign

/-- A call is a stretch in double braces. -/
theorem call_shape (matched : call.Matches lineStart lexeme after) :
    ∃ body, body ≠ [] ∧ lexeme = '{' :: '{' :: (body ++ ['}', '}']) := by
  obtain ⟨c, inner, rest, text_eq, length_eq, -, -⟩ :=
    enclosedLength?_eq_some.mp matched.lengthAt?_eq
  refine ⟨c :: inner, by simp, ?_⟩
  exact lexeme_eq after rest (text_eq.trans (by simp)) length_eq (by simp; omega)

theorem call_head (matched : call.Matches lineStart lexeme after) : lexeme.head? = some '{' := by
  obtain ⟨body, -, rfl⟩ := call_shape matched
  rfl

/-- A table block has an opening line, and content before its closing mark. -/
theorem table_shape (matched : table.Matches lineStart lexeme after) :
    ∃ attributes body, body ≠ [] ∧ '\n' ∉ attributes ∧
      lexeme = '{' :: '|' :: (attributes ++ '\n' :: (body ++ ['|', '}'])) := by
  obtain ⟨attributes, c, inner, rest, text_eq, length_eq, named, -⟩ :=
    tableLength?_eq_some.mp matched.lengthAt?_eq
  refine ⟨attributes, c :: inner, by simp, ?_, ?_⟩
  · rcases named with rfl | ⟨-, inline⟩
    · simp
    · exact inline
  · exact lexeme_eq after rest (text_eq.trans (by simp)) length_eq (by simp; omega)

theorem table_head (matched : table.Matches lineStart lexeme after) :
    lexeme.head? = some '{' := by
  obtain ⟨attributes, body, -, -, rfl⟩ := table_shape matched
  rfl

/-- As many signs as are counted stand at the front. -/
theorem take_signsAtStart {text : Text} {count : Nat} (enough : count ≤ signsAtStart text) :
    text.take count = List.replicate count '=' := by
  obtain ⟨rest, text_eq⟩ := List.takeWhile_prefix (l := text) (· == '=')
  have front : text.take count = (text.takeWhile (· == '=')).take count := by
    conv => lhs; rw [← text_eq]
    exact List.take_append_of_le_length enough
  rw [front, List.eq_replicate_iff]
  refine ⟨List.length_take_of_le enough, fun c inside => ?_⟩
  exact eq_of_mem_takeWhile_eq (List.mem_of_mem_take inside)

/-- What closes a heading: signs, and a line feed if it follows. -/
private theorem closing_shape (text : Text) :
    ∃ feed rest, text = List.replicate (min 4 (signsAtStart text)) '=' ++ (feed ++ rest) ∧
      closingLength text = min 4 (signsAtStart text) + feed.length ∧
      (feed = [] ∨ feed = ['\n']) := by
  have text_eq := List.take_append_drop (min 4 (signsAtStart text)) text
  rw [take_signsAtStart (Nat.min_le_right _ _)] at text_eq
  by_cases fed : (text.drop (min 4 (signsAtStart text))).head? = some '\n'
  · obtain ⟨rest, ahead⟩ := List.head?_eq_some_iff.mp fed
    refine ⟨['\n'], rest, ?_, ?_, .inr rfl⟩
    · rw [List.singleton_append, ← ahead, text_eq]
    · simp only [closingLength, if_pos fed, List.length_singleton]
  · refine ⟨[], text.drop (min 4 (signsAtStart text)), text_eq.symm, ?_, .inl rfl⟩
    simp only [closingLength, if_neg fed, List.length_nil]

/-- A heading begins a line. Its title stands between signs, and the line feed behind it
belongs to it. -/
theorem heading_shape (matched : heading.Matches lineStart lexeme after) :
    lineStart = true ∧ ∃ opening title closing feed,
      lexeme = List.replicate (opening + 1) '=' ++
        (title ++ (List.replicate (closing + 1) '=' ++ feed)) ∧
      title ≠ [] ∧ '\n' ∉ title ∧ (feed = [] ∨ feed = ['\n']) := by
  have found := matched.lengthAt?_eq
  simp only [heading] at found
  split at found
  · next isStart =>
      obtain ⟨opening, width, below, titled, length_eq, -⟩ := headingLength?_eq_some.mp found
      obtain ⟨c, title, rest, ahead, rfl, inline, -⟩ := titleLength?_eq_some.mp titled
      obtain ⟨feed, behind, closed, closingLength_eq, isFeed⟩ := closing_shape ('=' :: rest)
      obtain ⟨closing, closing_eq⟩ : ∃ closing, min 4 (signsAtStart ('=' :: rest)) = closing + 1 :=
        Nat.exists_eq_succ_of_ne_zero (by simp [signsAtStart])
      rw [closing_eq] at closed closingLength_eq
      refine ⟨isStart, opening, c :: title, closing, feed, ?_, by simp, inline, isFeed⟩
      refine lexeme_eq after behind ?_ length_eq ?_
      · have text_eq := List.take_append_drop (opening + 1) (lexeme ++ after)
        rw [take_signsAtStart (by omega), ahead, closed] at text_eq
        rw [← text_eq]
        simp
      · simp only [List.length_append, List.length_replicate, List.length_cons]
        omega
  · cases found

theorem heading_head (matched : heading.Matches lineStart lexeme after) :
    lexeme.head? = some '=' := by
  obtain ⟨-, opening, title, closing, feed, rfl, -⟩ := heading_shape matched
  rfl

/-- What starts with two brackets and ends with two has something between them. -/
private theorem exists_between {text : Text} (opened : ['[', '['] <+: text)
    (closed : [']', ']'] <:+ text) : ∃ inner, text = '[' :: '[' :: (inner ++ [']', ']']) := by
  obtain ⟨rest, rfl⟩ := opened
  obtain ⟨front, text_eq⟩ := closed
  match front, text_eq with
  | [], text_eq => simp at text_eq
  | [c], text_eq => simp at text_eq
  | c :: d :: inner, text_eq =>
      simp only [List.cons_append, List.nil_append, List.cons.injEq] at text_eq
      exact ⟨inner, by simp [text_eq.2.2]⟩

/-- Between the brackets of a link stands its body, with blanks around it. -/
theorem linkBody_shape {body : Text} (shape : lexeme = '[' :: '[' :: (body ++ [']', ']']) ∨
    lexeme = '[' :: (body ++ [']'])) :
    ∃ opening inner closing, lexeme = opening ++ (inner ++ closing) ∧
      linkBody lexeme = trim inner ∧ opening ≠ [] ∧ closing ≠ [] ∧
      (∀ c ∈ opening, c = '[') ∧ ∀ c ∈ closing, c = ']' := by
  rw [linkBody]
  by_cases double : ("[[".toList.isPrefixOf lexeme && "]]".toList.isSuffixOf lexeme) = true
  · rw [if_pos double]
    rw [Bool.and_eq_true, List.isPrefixOf_iff_prefix, List.isSuffixOf_iff_suffix] at double
    obtain ⟨inner, rfl⟩ := exists_between double.1 double.2
    exact ⟨['[', '['], inner, [']', ']'], rfl, by simp, by simp, by simp, by simp, by simp⟩
  · rw [if_neg double]
    rcases shape with rfl | rfl
    · refine absurd ?_ double
      rw [Bool.and_eq_true, List.isPrefixOf_iff_prefix, List.isSuffixOf_iff_suffix]
      exact ⟨⟨_, rfl⟩, ⟨'[' :: '[' :: body, rfl⟩⟩
    · exact ⟨['['], body, [']'], rfl, by simp, by simp, by simp, by simp, by simp⟩

theorem linkBody_double (body : Text) :
    linkBody ('[' :: '[' :: (body ++ [']', ']'])) = trim body := by
  have double : ("[[".toList.isPrefixOf ('[' :: '[' :: (body ++ [']', ']'])) &&
      "]]".toList.isSuffixOf ('[' :: '[' :: (body ++ [']', ']']))) = true := by
    rw [Bool.and_eq_true, List.isPrefixOf_iff_prefix, List.isSuffixOf_iff_suffix]
    exact ⟨⟨_, rfl⟩, ⟨'[' :: '[' :: body, rfl⟩⟩
  rw [linkBody, if_pos double]
  simp

/-- A changed link has its target cleaned or, if it is an address, kept, and shows the
text behind the bar or the first space when there is one. -/
theorem adaptLink_eq_some {written : Text} (adapted : adaptLink lexeme = some written) :
    (∃ target separator display, linkBody lexeme = target ++ separator :: display ∧
      (separator = '|' ∨ separator = ' ') ∧
      (written = '[' :: (target ++ '|' :: (display ++ [']'])) ∨
        written = '[' :: (cleanTarget target ++ '|' :: (display ++ [']'])))) ∨
      written = '[' :: (cleanTarget (linkBody lexeme) ++ [']']) := by
  rw [adaptLink] at adapted
  split at adapted
  · cases adapted
  · dsimp only at adapted
    split at adapted
    · next target display cut =>
        cases adapted
        exact .inl ⟨target, '|', display, (cutAt?_eq_some.mp cut).1, .inl rfl, .inr rfl⟩
    · split at adapted
      · next target display cut =>
          cases adapted
          refine .inl ⟨target, ' ', display, (cutAt?_eq_some.mp cut).1, .inr rfl, ?_⟩
          split
          · exact .inl rfl
          · exact .inr rfl
      · split at adapted
        · cases adapted
          exact .inr rfl
        · cases adapted

end DekiMigration.Markup
