/-
# Parameters

The list of pages takes parameters that say which pages to show. Every parameter has
a default. All parameters that are not acceptable are reported.
-/

import DekiMigration.Service.Request
import DekiMigration.Validation
import DekiMigration.Wiki.Store

namespace DekiMigration.Service

open Text Validation

/-- How many pages are shown unless it is said otherwise. -/
def usualLimit : Int := 100

/-- The greatest number of pages that are shown at once. -/
def greatestLimit : Int := 500

/-- Reads a whole number of at least `least`. -/
def atLeast (least : Int) (text : Text) : Except Complaint Int := do
  let number ← wholeNumber text
  if number < least then .error .tooSmall else return number

/-- Reads a whole number between `least` and `greatest`. -/
def between (least greatest : Int) (text : Text) : Except Complaint Int := do
  let number ← atLeast least text
  if greatest < number then .error .tooLarge else return number

/-- The complaint about a value, as a defect. -/
def defectAt (place : List Text) : Except Complaint α → List Defect
  | .ok _ => []
  | .error complaint => [⟨place, complaint⟩]

/-- The place of a parameter. -/
def queryPlace (name : Text) : List Text :=
  ["query".toList, name]

/-- The parameters of a listing, each as far as it is acceptable. -/
structure Listing where
  namespaces : List (Except Complaint Int)
  skip : Except Complaint Int
  limit : Except Complaint Int
  includeIgnored : Except Complaint Bool

namespace Listing

/-- The parameters that a request for a list of pages gives. -/
def ofRequest (request : Request) : Listing :=
  let read {α : Type} (name : String) (read : Text → Except Complaint α) (usual : α) :=
    ((request.parameter? name.toList).map read).getD (.ok usual)
  { namespaces := (request.parameters "namespace".toList).map wholeNumber
    skip := read "skip" (atLeast 0) 0
    limit := read "limit" (between 1 greatestLimit) usualLimit
    includeIgnored := read "include_ignored" truth false }

/-- What is wrong with the parameters of a listing. -/
def defects (listing : Listing) : List Defect :=
  (listing.namespaces.zipIdx.flatMap fun (number, index) =>
      defectAt (queryPlace "namespace".toList ++ [ofNat index]) number) ++
    defectAt (queryPlace "skip".toList) listing.skip ++
    defectAt (queryPlace "limit".toList) listing.limit ++
    defectAt (queryPlace "include_ignored".toList) listing.includeIgnored

/-- The selection that a listing asks for, when all its parameters are
acceptable. -/
def selection (listing : Listing) : Except Complaint Wiki.Selection := do
  return {
    namespaces := ← listing.namespaces.mapM id
    skip := ← listing.skip
    limit := some (← listing.limit)
    includeIgnored := ← listing.includeIgnored }

end Listing

/-- The selection that a request for a list of pages asks for, or all that is wrong
with its parameters. -/
def selectionOf (request : Request) : Except (List Defect) Wiki.Selection :=
  let listing := Listing.ofRequest request
  listing.selection.mapError fun _ => listing.defects

/-- The place of the number of a page. -/
def idPlace : List Text :=
  ["path".toList, "page_id".toList]

end DekiMigration.Service
