/-
# Namespaces of a document

A prefix stands for a namespace, which an attribute of the element or of one
around it binds to the prefix. A prefix that nothing binds is an error, and so are
two attributes of one element with the same namespace and local name. Bindings
that would take away the two prefixes of XML itself are errors too.
-/

import DekiMigration.Xml.Lexeme

namespace DekiMigration.Xml

open Text

/-- An attribute of an element. -/
structure Attribute where
  name : QualifiedName
  value : Text
  deriving DecidableEq, Repr

/-- The prefix of attributes that bind a prefix, and the name of the attribute
that binds the namespace of names without one. -/
def bindingName : Text := "xmlns".toList

/-- The prefix that is bound in every document. -/
def xmlPrefix : Text := "xml".toList

/-- The namespace of the prefix that is bound in every document. -/
def xmlNamespace : Text := "http:".toList ++ "//www.w3.org/XML/1998/namespace".toList

/-- The namespace of the attributes that bind a prefix. -/
def bindingNamespace : Text := "http:".toList ++ "//www.w3.org/2000/xmlns/".toList

/-- The bindings in force, the innermost first. -/
abbrev Scope := List (Text × Text)

namespace Scope

/-- The bindings that every document starts with. -/
def initial : Scope := [(xmlPrefix, xmlNamespace)]

/-- Whether a name may be bound to a namespace, the name being missing when the
namespace of names without prefix is meant. -/
def mayBind (name : Option Text) (target : Text) : Bool :=
  name != some bindingName && target != bindingNamespace &&
    (name == some xmlPrefix) == (target == xmlNamespace) &&
    !(target.isEmpty && name.isSome) && !target.contains '}'

/-- Whether an attribute is a binding. -/
def isBinding (entry : Attribute) : Bool :=
  entry.name.space == some bindingName || entry.name == ⟨none, bindingName⟩

/-- Adds the binding of an attribute, when it is one and allowed. -/
def bind? (scope : Scope) (entry : Attribute) : Option Scope :=
  let ⟨⟨space, base⟩, target⟩ := entry
  if space = some bindingName then
    if mayBind (some base) target then some ((base, target) :: scope) else none
  else if space = none && base = bindingName then
    if mayBind none target then some scope else none
  else some scope

/-- Whether the prefix of a name, if there is one, is bound. -/
def covers (scope : Scope) (name : QualifiedName) : Bool :=
  name.space.all fun space => (scope.lookup space).isSome

/-- Namespace and local name of an attribute with a prefix. -/
def expanded? (scope : Scope) (name : QualifiedName) : Option (Text × Text) := do
  some (← scope.lookup (← name.space), name.base)

/-- The bindings in force in an element with a given name and attributes, when
all of it is in order. -/
def enter? (scope : Scope) (name : QualifiedName) (attributes : List Attribute) :
    Option Scope := do
  let scope ← attributes.foldlM bind? scope
  let others := (attributes.filter (!isBinding ·)).map (·.name)
  let known := others.filterMap scope.expanded?
  if scope.covers name && others.all scope.covers && decide known.Nodup then some scope
  else none

end Scope

end DekiMigration.Xml
