/-
# Templates

The catalog of a migration holds the names of all templates of the wiki, each
with the `Template:` qualifier. It is complete before any page is converted. A
name is looked up exactly as it is written, except that a qualified name is also
found under its bare form, the qualifier being read in any case.
-/

import DekiMigration.Text.Blank

namespace DekiMigration.Template

open Text

/-- What qualifies the name of a template. -/
def qualifier : Text := "Template:".toList

/-- A name as it is looked up: without blanks around it and with low lines for
spaces. -/
def normalizeName (name : Text) : Text :=
  (trim name).map fun c => if c = ' ' then '_' else c

/-- Whether a name starts with the qualifier, in any case. -/
def isQualified (name : Text) : Bool :=
  sameLetters (name.take qualifier.length) qualifier

/-- A name without its qualifier. -/
def bareName (name : Text) : Text :=
  if isQualified name then name.drop qualifier.length else name

/-- Keeps the first of equal neighbours. -/
def dropRepeats : List Text → List Text
  | [] => []
  | name :: names => go [] name names
where
  /-- Goes on behind `last`, with the names kept before it, last first. -/
  go (kept : List Text) (last : Text) : List Text → List Text
    | [] => (last :: kept).reverse
    | name :: names => if name = last then go kept last names else go (last :: kept) name names

/-- The known template names, in increasing order and each once. -/
structure Catalog where
  names : List Text
  deriving DecidableEq, Repr

namespace Catalog

/-- The catalog of the given names, taken as they are. -/
def ofNames (names : List Text) : Catalog :=
  ⟨dropRepeats (sort names)⟩

/-- The catalog of the templates with the given titles. -/
def ofTitles (titles : List Text) : Catalog :=
  ofNames (titles.map fun title => qualifier ++ normalizeName title)

/-- The catalog without names. -/
def empty : Catalog := ⟨[]⟩

/-- Whether a name is in the catalog as it is written. -/
def contains (catalog : Catalog) (name : Text) : Bool :=
  catalog.names.contains name

/-- How many names a catalog holds. -/
def size (catalog : Catalog) : Nat :=
  catalog.names.length

/-- Whether a name calls a known template: as it is written, or without its
qualifier. -/
def knows (catalog : Catalog) (name : Text) : Bool :=
  catalog.contains name ||
    (isQualified name && catalog.contains (name.drop qualifier.length))

/-- A catalog as messages show it. -/
def display (catalog : Catalog) : Text :=
  "TemplateCatalog(".toList ++ ofNat catalog.size ++ " names)".toList

end Catalog

end DekiMigration.Template
