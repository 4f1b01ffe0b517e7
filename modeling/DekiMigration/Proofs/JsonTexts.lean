/-
# Texts in JSON

Every text can be written as a string of JSON, and so can every list of texts; what is
written is read as it was. The tokens are read one after the other, and each is taken in
wherever it stands: the places only matter for faults.
-/

import DekiMigration.Json.Reader

namespace DekiMigration

open Text

namespace Text

variable {α β : Type} {item? : List β → Option (α × List β)}

/-- The items that are read from the front of a sequence one after the other, and what
follows the last one. Every item takes something, so the length is fuel enough. -/
inductive ReadsItems (item? : List β → Option (α × List β)) :
    List β → List α → List β → Prop
  | stop {members : List β} (none : item? members = none) : ReadsItems item? members [] members
  | step {members later rest : List β} {item : α} {items : List α}
      (here : item? members = some (item, later)) (shorter : later.length < members.length)
      (others : ReadsItems item? later items rest) : ReadsItems item? members (item :: items) rest

theorem ReadsItems.manyFrom_eq {members rest : List β} {items : List α}
    (reads : ReadsItems item? members items rest) {fuel : Nat} (enough : members.length ≤ fuel)
    (done : List α) : manyFrom item? fuel members done = (done.reverse ++ items, rest) := by
  induction reads generalizing fuel done with
  | stop none => cases fuel <;> simp [manyFrom, none]
  | @step members later rest item items here shorter others ih =>
      obtain ⟨fuel, rfl⟩ := Nat.exists_eq_add_of_lt (Nat.lt_of_lt_of_le shorter enough)
      rw [manyFrom, here]
      dsimp only
      rw [ih (by omega), List.reverse_cons, List.append_assoc]
      rfl

/-- All items are read. -/
theorem ReadsItems.many_eq {members rest : List β} {items : List α}
    (reads : ReadsItems item? members items rest) : many item? members = (items, rest) :=
  reads.manyFrom_eq (Nat.le_refl _) []

end Text

namespace Json

/-- A character as it is written in a string. -/
def writeChar (c : Char) : Text :=
  if c = '"' || c = '\\' then ['\\', c]
  else if c.toNat < 0x20 then
    ['\\', 'u', '0', '0', Nat.digitChar (c.toNat / 16), Nat.digitChar (c.toNat % 16)]
  else [c]

/-- A text as a string. -/
def writeText (text : Text) : Text :=
  '"' :: (text.flatMap writeChar ++ ['"'])

theorem unit?_digitChar {number : Nat} (small : number < 0x20) :
    unit? '0' '0' (Nat.digitChar (number / 16)) (Nat.digitChar (number % 16)) = some number := by
  revert number
  decide

/-- A character that is written is read. -/
theorem stringFrom_writeChar (start : Text) (c : Char) {rest : Text} (more : rest ≠ [])
    (done : Text) :
    stringFrom start (writeChar c ++ rest) done none true =
      stringFrom start rest (c :: done) none true := by
  by_cases sign : c = '"' ∨ c = '\\'
  · rcases sign with rfl | rfl <;> rfl
  · rw [not_or] at sign
    by_cases control : c.toNat < 0x20
    · have high : isHighHalf c.toNat = false := by
        rw [isHighHalf, decide_eq_false (by omega), Bool.false_and]
      have low : isLowHalf c.toNat = false := by
        rw [isLowHalf, decide_eq_false (by omega), Bool.false_and]
      rw [writeChar, if_neg (by simp [sign]), if_pos control]
      simp only [List.cons_append, List.nil_append]
      -- four digits may not end the text, which is why something has to follow
      rw [stringFrom, unit?_digitChar control]
      simp [more, high, low, Char.ofNat_toNat]
    · rw [writeChar, if_neg (by simp [sign]), if_neg control, List.singleton_append, stringFrom]
      · simp [control]
      all_goals simp [sign]

/-- A string that is written is read. -/
theorem stringFrom_flatMap (start text rest done : Text) :
    stringFrom start (text.flatMap writeChar ++ '"' :: rest) done none true =
      .ok (some (done.reverse ++ text), rest) := by
  induction text generalizing done with
  | nil => simp [stringFrom]
  | cons c text ih =>
      rw [List.flatMap_cons, List.append_assoc, stringFrom_writeChar start c (by simp), ih]
      simp

/-- The tokens of a text up to its end, without their places. -/
def HasTokens (text : Text) (tokens : List Token) : Prop :=
  ∃ items, ReadsItems Token.read? text items [] ∧ items.map (·.2) = tokens

theorem hasTokens_nil : HasTokens [] [] :=
  ⟨[], .stop rfl, rfl⟩

theorem HasTokens.mark {rest : Text} {tokens : List Token} (later : HasTokens rest tokens)
    {c : Char} (sign : c ∈ ['[', ']', '\x7b', '\x7d', ':', ',']) :
    HasTokens (c :: rest) (.mark c :: tokens) := by
  obtain ⟨items, reads, rfl⟩ := later
  refine ⟨(c :: rest, .mark c) :: items, .step ?_ (Nat.lt_succ_self _) reads, rfl⟩
  simp only [List.mem_cons, List.not_mem_nil, or_false] at sign
  rcases sign with rfl | rfl | rfl | rfl | rfl | rfl <;> rfl

theorem HasTokens.string {rest : Text} {tokens : List Token} (later : HasTokens rest tokens)
    (text : Text) : HasTokens (writeText text ++ rest) (.string (some text) :: tokens) := by
  obtain ⟨items, reads, rfl⟩ := later
  refine ⟨(writeText text ++ rest, .string (some text)) :: items, .step ?_ ?_ reads, rfl⟩
  · have split : writeText text ++ rest = '"' :: (text.flatMap writeChar ++ '"' :: rest) := by
      simp [writeText]
    rw [split, Token.read?, List.dropWhile_cons_of_neg (by decide)]
    dsimp only
    rw [if_pos rfl, stringFrom_flatMap]
    rfl
  · simp only [writeText, List.cons_append, List.length_cons, List.length_append]
    omega

/-- Tokens lead from one state to another, wherever they stand. -/
def Leads (state : State) (tokens : List Token) (last : State) : Prop :=
  ∀ (misplaced : Text → Fault) (faultAt : Text → Fault) (items : List (Text × Token)),
    items.map (·.2) = tokens →
    items.foldlM (fun state item => state.step (misplaced item.1) faultAt item.2) state =
      .ok last

theorem leads_nil (state : State) : Leads state [] state := by
  rintro misplaced faultAt items no
  rw [List.map_eq_nil_iff.mp no]
  rfl

theorem Leads.cons {state last : State} {token : Token} {tokens : List Token} (next : State)
    (here : ∀ misplaced faultAt, state.step misplaced faultAt token = .ok next)
    (later : Leads next tokens last) : Leads state (token :: tokens) last := by
  rintro misplaced faultAt items split
  obtain ⟨⟨start, first⟩, others, rfl, rfl, rfl⟩ := List.map_eq_cons_iff.mp split
  rw [List.foldlM_cons]
  dsimp only
  rw [here]
  exact later misplaced faultAt others rfl

/-- A text is read when its tokens lead to an end. -/
theorem read_of_leads {text : Text} {tokens : List Token} {last : State}
    (hasTokens : HasTokens text tokens) (leads : Leads {} tokens last)
    (ended : last.expected = .delimiter) (closed : last.frames = []) :
    read text = .ok last.result := by
  obtain ⟨items, reads, tokens_eq⟩ := hasTokens
  have readAll : Token.readAll text = items := by rw [Token.readAll, reads.many_eq]
  rw [read, readAll]
  dsimp only
  rw [leads (fun start => .malformed (text.length - start.length)) _ items tokens_eq]
  simp [bind, Except.bind, ended, closed]

/-- Texts as the items of a list. -/
def writeItems : List Text → Text
  | [] => []
  | text :: texts => writeText text ++ texts.flatMap (',' :: writeText ·)

/-- The tokens of the items behind the first. -/
def laterTokens (texts : List Text) : List Token :=
  texts.flatMap fun text => [.mark ',', .string (some text)]

theorem HasTokens.laterItems {rest : Text} {tokens : List Token} (later : HasTokens rest tokens)
    (texts : List Text) :
    HasTokens (texts.flatMap (',' :: writeText ·) ++ rest) (laterTokens texts ++ tokens) := by
  induction texts with
  | nil => exact later
  | cons text texts ih =>
      rw [List.flatMap_cons, List.append_assoc, List.cons_append]
      exact (ih.string text).mark (by simp)

/-- Items behind the first are added to the list that is open. -/
theorem Leads.laterItems {frames : List Frame} {result : Value} {tokens : List Token}
    {last : State} (texts : List Text) {done : List Value}
    (later : Leads ⟨.list ((texts.map .string).reverse ++ done) :: frames, .delimiter, result⟩
      tokens last) :
    Leads ⟨.list done :: frames, .delimiter, result⟩ (laterTokens texts ++ tokens) last := by
  induction texts generalizing done with
  | nil => exact later
  | cons text texts ih =>
      have taken : Leads ⟨.list (.string text :: done) :: frames, .delimiter, result⟩
          (laterTokens texts ++ tokens) last := by
        apply ih
        rwa [List.map_cons, List.reverse_cons, List.append_assoc] at later
      refine .cons ⟨.list done :: frames, .value, result⟩ (fun _ _ => rfl) ?_
      exact .cons _ (fun _ _ => rfl) taken

/-- The tokens of the items of a list. -/
def itemTokens : List Text → List Token
  | [] => []
  | text :: texts => .string (some text) :: laterTokens texts

theorem HasTokens.items {rest : Text} {tokens : List Token} (later : HasTokens rest tokens)
    (texts : List Text) : HasTokens (writeItems texts ++ rest) (itemTokens texts ++ tokens) := by
  cases texts with
  | nil => exact later
  | cons text texts =>
      rw [writeItems, List.append_assoc]
      exact (later.laterItems texts).string text

/-- A list of texts is taken in as a whole. -/
theorem Leads.items {frames : List Frame} {result : Value} {tokens : List Token} {last : State}
    {texts : List Text}
    (later : Leads (State.complete ⟨frames, .delimiter, result⟩ (.list (texts.map .string)))
      tokens last) :
    Leads ⟨.list [] :: frames, .firstItem, result⟩ (itemTokens texts ++ .mark ']' :: tokens)
      last := by
  have whole : ∀ expected value, State.complete ⟨frames, expected, result⟩ value =
      State.complete ⟨frames, .delimiter, result⟩ value := by
    intro expected value
    rcases frames with _ | ⟨frame, frames⟩
    · rfl
    · cases frame <;> rfl
  cases texts with
  | nil =>
      refine .cons _ (fun misplaced faultAt => ?_) later
      exact congrArg Except.ok (whole .firstItem (.list []))
  | cons text texts =>
      have closed : Leads
          ⟨.list ((texts.map .string).reverse ++ [.string text]) :: frames, .delimiter, result⟩
          (.mark ']' :: tokens) last := by
        refine .cons _ (fun misplaced faultAt => ?_) later
        show Except.ok (State.complete _ (.list _)) = _
        rw [List.reverse_append, List.reverse_reverse]
        rfl
      exact .cons _ (fun _ _ => rfl) closed.laterItems

end Json

end DekiMigration
