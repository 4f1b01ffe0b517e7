/-
# Elements

An element has a name, a text and child elements. Of its name only the local part
is kept, and of its text what stands before the first child.
-/

import DekiMigration.Text

namespace DekiMigration.Xml

/-- An element of a document. -/
structure Element where
  name : Text
  text : Text
  children : List Element

namespace Element

/-- The first child with a given name. -/
def child? (element : Element) (name : Text) : Option Element :=
  element.children.find? (·.name = name)

/-- The children with a given name. -/
def childrenNamed (element : Element) (name : Text) : List Element :=
  element.children.filter (·.name = name)

/-- The text of the first child with a given name; empty without such a child. -/
def textOf (element : Element) (name : Text) : Text :=
  ((element.child? name).map (·.text)).getD []

end Element

end DekiMigration.Xml
