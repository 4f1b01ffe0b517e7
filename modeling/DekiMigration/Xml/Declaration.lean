/-
# Document type declarations

Before its root element a document may declare entities, and attributes that
elements have by default. Declarations of the contents of elements and of notations
are checked and have no effect. A declaration is a sequence of words: names,
quoted texts, marks. Declarations kept outside the document are not read, and
neither are those behind a reference to a parameter entity, unless the document
says that it stands alone.
-/

import DekiMigration.Xml.Entity

namespace DekiMigration.Xml

open Text

/-- A word of a declaration. -/
inductive Word where
  | name (name : QualifiedName)
  /-- A token of name characters that is no name. -/
  | token (spelling : Text)
  /-- A name or token and how often it occurs: `?`, `*` or `+`. -/
  | repeated (spelling : Text)
  | literal (text : Text)
  /-- A name behind a number sign. -/
  | reserved (spelling : Text)
  | percent
  | opening
  /-- A closing parenthesis and how often the group occurs. -/
  | closing (mark : Option Char)
  | comma
  | bar
  deriving DecidableEq, Repr

namespace Word

/-- A name without prefix, as a word. -/
def plain (spelling : Text) : Word :=
  .name ⟨none, spelling⟩

/-- Whether a character tells how often something occurs. -/
def isMark (c : Char) : Bool :=
  c = '?' || c = '*' || c = '+'

/-- The word that a run of name characters and colons is. -/
def ofSpelling (spelling : Text) : Word :=
  if !spelling.head?.any isNameStart then .token spelling
  else match cutAt? ':' spelling with
    | none => .plain spelling
    | some (space, base) =>
      if base.isEmpty || base.contains ':' then .token spelling else .name ⟨some space, base⟩

/-- Whether a word may end here: before white space, a mark of a group, or the end
of the declaration. -/
def endsHere (rest : Text) : Bool :=
  endsWord rest || rest.head?.any fun c => c = ')' || c = ',' || c = '|'

/-- Reads a name or another token of name characters. -/
def spelled? (text : Text) : Option (Word × Text) :=
  let (spelling, rest) := text.span fun c => isNamePart c || c = ':'
  if spelling.isEmpty then none
  else match rest with
    | c :: after =>
      if isMark c then
        match ofSpelling spelling with
        | .token _ => none
        | _ => some (.repeated spelling, after)
      else if endsHere rest then some (ofSpelling spelling, rest)
      else none
    | [] => some (ofSpelling spelling, [])

/-- Reads the word at the front of a text. -/
def read? (text : Text) : Option (Word × Text) :=
  match skipSpaces text with
  | '"' :: _ | '\'' :: _ => do
    let (quote, rest) ← literal? (skipSpaces text)
    if endsWord rest then some (.literal quote, rest) else none
  | '#' :: rest => do
    let (spelling, rest) ← name? rest
    if endsHere rest then some (.reserved spelling, rest) else none
  | '%' :: rest => if !rest.isEmpty && endsWord rest then some (.percent, rest) else none
  | '(' :: rest => some (.opening, rest)
  | ')' :: rest =>
    match rest with
    | c :: after =>
      if isMark c then some (.closing (some c), after)
      else if endsHere rest then some (.closing none, rest)
      else none
    | [] => some (.closing none, [])
  | ',' :: rest => some (.comma, rest)
  | '|' :: rest => some (.bar, rest)
  | text => spelled? text

/-- The words that make up a text. -/
def readAll? (text : Text) : Option (List Word) :=
  match many read? text with
  | (words, rest) => if rest.all isSpace && text.all isAllowed then some words else none

end Word

/-- Whether a character may stand in a public identifier. -/
def isPublic (c : Char) : Bool :=
  c.isAlphanum || " \n\r-'()+,./:=?;!*#@$_%".toList.contains c

/-- What follows the identifier of something kept outside the document. -/
def external? : List Word → Option (List Word)
  | .name ⟨none, kind⟩ :: .literal first :: words =>
    if kind = "SYSTEM".toList then some words
    else if kind = "PUBLIC".toList && first.all isPublic then
      match words with
      | .literal _ :: words => some words
      | _ => none
    else none
  | _ => none

/-- What follows the items of an enumeration, up to its closing parenthesis. -/
def enumeration? (isItem : Word → Bool) : List Word → Option (List Word)
  | item :: .closing none :: words => if isItem item then some words else none
  | item :: .bar :: words => if isItem item then enumeration? isItem words else none
  | _ => none

/-- The types of attributes that a name stands for. -/
def attributeTypes : List Text :=
  ["CDATA".toList, "ID".toList, "IDREF".toList, "IDREFS".toList, "ENTITY".toList,
    "ENTITIES".toList, "NMTOKEN".toList, "NMTOKENS".toList]

/-- What follows the type of an attribute. -/
def attributeType? : List Word → Option (List Word)
  | .opening :: words =>
    enumeration? (fun | .name _ | .token _ => true | _ => false) words
  | .name ⟨none, kind⟩ :: words =>
    if attributeTypes.contains kind then some words
    else match words with
      | .opening :: words =>
        if kind = "NOTATION".toList then
          enumeration? (fun | .name ⟨none, _⟩ => true | _ => false) words
        else none
      | _ => none
  | _ => none

/-- Reads the definition of one attribute: its name and its default, as it is
written between quotes. -/
def attribute? : List Word → Option ((QualifiedName × Option Text) × List Word)
  | .name name :: words => do
    match ← attributeType? words with
    | .literal value :: words => some ((name, some value), words)
    | .reserved kind :: words =>
      if kind = "IMPLIED".toList || kind = "REQUIRED".toList then some ((name, none), words)
      else match words with
        | .literal value :: words =>
          if kind = "FIXED".toList then some ((name, some value), words) else none
        | _ => none
    | _ => none
  | _ => none

/-- Whether the rest of a contents model is in order. `groups` holds, for each
group that is open, innermost first, what parts its items, as soon as that is
known; `item` tells whether an item comes next. -/
def isGrouped : (groups : List (Option Word)) → (item : Bool) → List Word → Bool
  | groups, true, .opening :: words => isGrouped (none :: groups) true words
  | groups, true, .name _ :: words => isGrouped groups false words
  | groups, true, .repeated _ :: words => isGrouped groups false words
  | _ :: groups, false, .closing _ :: words =>
    if groups.isEmpty then words.isEmpty else isGrouped groups false words
  | mark :: groups, false, word :: words =>
    (word == .comma || word == .bar) && (mark.isNone || mark == some word) &&
      isGrouped (some word :: groups) true words
  | _, _, _ => false

/-- Whether words tell what an element contains. -/
def isContentsModel : List Word → Bool
  | [.name ⟨none, kind⟩] => kind = "EMPTY".toList || kind = "ANY".toList
  | .opening :: .reserved kind :: words =>
    kind = "PCDATA".toList &&
      match words with
      | [.closing mark] => mark.isNone || mark = some '*'
      | .bar :: words => isMixed words
      | _ => false
  | .opening :: words => isGrouped [none] true words
  | _ => false
where
  /-- Whether words name the elements that may stand between text. -/
  isMixed : List Word → Bool
    | [.name _, .closing mark] => mark = some '*'
    | .name _ :: .bar :: words => isMixed words
    | _ => false

/-- What the declarations of a document say. -/
structure Declarations where
  /-- Whether the document says that it stands alone. -/
  standsAlone : Bool := false
  /-- Whether no declarations are out of sight so far. -/
  areAll : Bool := true
  /-- Whether declarations still count. -/
  areKept : Bool := true
  declared : List (Text × Option Text) := []
  /-- The attributes that are declared for elements, with their defaults. -/
  defaults : List (QualifiedName × QualifiedName × Option Text) := []
  deriving Repr

namespace Declarations

/-- The declared entities. -/
def entities (declarations : Declarations) : Entities :=
  ⟨declarations.declared, !declarations.areAll && !declarations.standsAlone⟩

/-- Takes note that declarations are out of sight. -/
def withHidden (declarations : Declarations) : Declarations :=
  { declarations with areAll := false, areKept := declarations.standsAlone }

/-- Reads the declaration of an entity. -/
def entity? (declarations : Declarations) : List Word → Option Declarations
  | [.percent, .name ⟨none, _⟩, .literal value] =>
    if declarations.areKept && (replacement? value).isNone then none else some declarations
  | .percent :: .name ⟨none, _⟩ :: words =>
    if external? words = some [] then some declarations else none
  | [.name ⟨none, name⟩, .literal value] =>
    if declarations.areKept then do
      let replacement ← replacement? value
      some { declarations with
        declared := (declarations.entities.declare name (some replacement)).declared }
    else some declarations
  | .name ⟨none, name⟩ :: words => do
    let isEntity : Bool ← match ← external? words with
      | [] => some true
      | [.name ⟨none, kind⟩, .name ⟨none, _⟩] => some (kind = "NDATA".toList)
      | _ => none
    if !isEntity then none
    else if declarations.areKept then
      some { declarations with
        declared := (declarations.entities.declare name none).declared }
    else some declarations
  | _ => none

/-- Notes the declaration of an attribute; of two for one element and attribute the
first counts. -/
def declareAttribute? (declarations : Declarations) (element : QualifiedName)
    (definition : QualifiedName × Option Text) : Option Declarations := do
  let (name, written) := definition
  if !declarations.areKept then some declarations
  else
    let value : Option Text ← match written with
      | some written => do some (some (← declarations.entities.value? written))
      | none => some none
    let isKnown := declarations.defaults.any fun (e, n, _) => e = element && n = name
    some (if isKnown then declarations
      else { declarations with
        defaults := declarations.defaults ++ [(element, name, value)] })

/-- Reads the declaration of the attributes of an element. -/
def attributes? (declarations : Declarations) : List Word → Option Declarations
  | .name element :: words => do
    let definitions ← all? attribute? words
    definitions.foldlM (·.declareAttribute? element ·) declarations
  | _ => none

/-- Whether words declare a notation. -/
def isNotation : List Word → Bool
  | [.name ⟨none, _⟩, .name ⟨none, kind⟩, .literal text] =>
    kind = "SYSTEM".toList || kind = "PUBLIC".toList && text.all isPublic
  | .name ⟨none, _⟩ :: words => external? words = some []
  | _ => false

/-- Reads a declaration by its keyword and the words behind it. -/
def read? (declarations : Declarations) (keyword : Text) (words : List Word) :
    Option Declarations :=
  if keyword = "ENTITY".toList then declarations.entity? words
  else if keyword = "ATTLIST".toList then declarations.attributes? words
  else if keyword = "ELEMENT".toList then
    match words with
    | .name _ :: model => if isContentsModel model then some declarations else none
    | _ => none
  else if keyword = "NOTATION".toList && isNotation words then some declarations
  else none

/-- The defaults of the attributes of an element, without those of the attributes
that are already there. -/
def missing (declarations : Declarations) (element : QualifiedName)
    (names : List QualifiedName) : List (QualifiedName × Text) :=
  declarations.defaults.filterMap fun (owner, name, value) =>
    if owner = element && !names.contains name then value.map (name, ·) else none

end Declarations

/-- What may stand between the brackets of a document type declaration. -/
inductive Declared where
  | declaration (keyword : Text) (words : List Word)
  /-- A reference to a parameter entity. -/
  | parameter
  /-- White space, a comment or a processing instruction. -/
  | aside
  deriving DecidableEq, Repr

/-- Reads what a text between the brackets begins with. -/
def Declared.read? (text : Text) : Option (Declared × Text) :=
  match text with
  | '%' :: text => do
    let (_, rest) ← name? text
    some (.parameter, ← dropLead? [';'] rest)
  | c :: _ =>
    if isSpace c then some (.aside, skipSpaces text)
    else match aside? text with
      | some rest => some (.aside, rest)
      | none => do
        let (keyword, rest) ← name? (← dropLead? "<!".toList text)
        let (body, rest) ← unquoted? (· = '>') none rest
        if endsWord body then some (.declaration keyword (← Word.readAll? body), rest.tail)
        else none
  | [] => none

/-- Takes note of what stands between the brackets. -/
def Declarations.add? (declarations : Declarations) : Declared → Option Declarations
  | .declaration keyword words => declarations.read? keyword words
  | .parameter => some declarations.withHidden
  | .aside => some declarations

/-- Reads a document type declaration: the name of the root, an identifier of
declarations outside the document, and declarations between brackets. -/
def Declarations.documentType? (declarations : Declarations) (text : Text) :
    Option (Declarations × Text) := do
  let (head, rest) ← unquoted? (fun c => c = '[' || c = '>') none
    (← dropLead? "<!DOCTYPE".toList text)
  let isExternal : Bool ← match ← Word.readAll? head with
    | [.name _] => some false
    | .name _ :: words => if external? words = some [] then some true else none
    | _ => none
  let (items, rest) ← match rest with
    | '[' :: inner => do
      let (items, rest) := many Declared.read? inner
      some (items, skipSpaces (← dropLead? [']'] rest))
    | _ => some ([], rest)
  let rest ← dropLead? ['>'] rest
  let declarations ← items.foldlM add? { declarations with areAll := !isExternal }
  if endsWord head then some (declarations, rest) else none

end DekiMigration.Xml
