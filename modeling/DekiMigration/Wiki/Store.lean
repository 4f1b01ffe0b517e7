/-
# The wiki

The wiki keeps its records in the order of their numbers, no two under one number,
and it knows which categories a page belongs to. Numbers have to fit into 64 bits
with a sign, also those that are only asked for, and a record is kept only when
nothing that is required is missing from it. Pages are listed in the order of their
numbers; a listing can be restricted to some namespaces, leave out those that are not
migrated, and show a window of what is left.
-/

import DekiMigration.Wiki.Record

namespace DekiMigration.Wiki

open Text

/-- Why the wiki refuses what it is asked. -/
inductive Refusal where
  /-- A number does not fit into 64 bits. -/
  | numberTooLarge
  /-- Something that is required is missing from a record. -/
  | incomplete
  /-- There is no page with a given number. -/
  | noPage (id : Int)
  deriving DecidableEq, Repr

/-- Whether a number fits into 64 bits with a sign. -/
def isStorable (number : Int) : Bool :=
  -Int.pow 2 63 ≤ number && number < Int.pow 2 63

/-- Whether all numbers of a record fit into 64 bits. -/
def Record.isStorable (record : Record) : Bool :=
  Wiki.isStorable record.id && Wiki.isStorable record.namespaceNumber &&
    record.user.all Wiki.isStorable

/-- Whether nothing that is required is missing from a record; its text and its
comment may be. -/
def Record.isComplete (record : Record) : Bool :=
  record.title.isSome && record.user.isSome && record.touched.isSome && record.timestamp.isSome

/-- Records in the order of their numbers, with another one in its place; a record
under the same number makes way for it. -/
def place (record : Record) : List Record → List Record
  | [] => [record]
  | first :: later =>
    if record.id < first.id then record :: first :: later
    else if record.id = first.id then record :: later
    else first :: place record later

/-- Nothing else comes in with a record. -/
theorem mem_of_mem_place {record other : Record} {records : List Record}
    (h : other ∈ place record records) : other = record ∨ other ∈ records := by
  induction records with
  | nil => simpa [place] using h
  | cons first later ih =>
    simp only [place] at h
    split at h
    · simpa using h
    · split at h
      · rcases List.mem_cons.mp h with rfl | h
        · exact .inl rfl
        · exact .inr (List.mem_cons_of_mem _ h)
      · rcases List.mem_cons.mp h with rfl | h
        · exact .inr List.mem_cons_self
        · exact (ih h).imp_right (List.mem_cons_of_mem _)

/-- Records stay in the order of their numbers when another one is put in place. -/
theorem pairwise_place (record : Record) {records : List Record}
    (sorted : records.Pairwise (·.id < ·.id)) :
    (place record records).Pairwise (·.id < ·.id) := by
  induction records with
  | nil => simp [place]
  | cons first later ih =>
    obtain ⟨least, sorted⟩ := List.pairwise_cons.mp sorted
    simp only [place]
    split
    · next before =>
      refine List.pairwise_cons.mpr ⟨fun other h => ?_, List.pairwise_cons.mpr ⟨least, sorted⟩⟩
      rcases List.mem_cons.mp h with rfl | h
      · exact before
      · exact Int.lt_trans before (least other h)
    · split
      · next same => exact List.pairwise_cons.mpr ⟨fun other h => same ▸ least other h, sorted⟩
      · next notBefore notSame =>
        refine List.pairwise_cons.mpr ⟨fun other h => ?_, ih sorted⟩
        rcases mem_of_mem_place h with rfl | h
        · omega
        · exact least other h

/-- A wiki. -/
structure Store where
  records : List Record := []
  /-- The pages and the categories they belong to. -/
  memberships : List (Int × Text) := []
  sorted : records.Pairwise (·.id < ·.id) := by simp
  kept : ∀ record ∈ records, record.isStorable ∧ record.isComplete := by simp
  distinct : memberships.Nodup := by simp

/-- What a listing of pages shows. -/
structure Selection where
  /-- The numbers of the namespaces to show; all of them when none is named. -/
  namespaces : List Int := []
  /-- How many pages to pass over. A negative number passes over none. -/
  skip : Int := 0
  /-- How many pages to show at most. A negative number shows all. -/
  limit : Option Int := none
  includeIgnored : Bool := true
  deriving DecidableEq, Repr

namespace Selection

/-- Whether a selection shows a record when the window is left aside. -/
def admits (selection : Selection) (record : Record) : Bool :=
  (selection.namespaces.isEmpty || selection.namespaces.contains record.namespaceNumber) &&
    (selection.includeIgnored || !Namespace.ignoredNumbers.contains record.namespaceNumber)

/-- The part of a sequence that lies in the window of a selection. -/
def window (selection : Selection) (items : List α) : List α :=
  let later := items.drop selection.skip.toNat
  match selection.limit with
  | some (.ofNat count) => later.take count
  | _ => later

/-- Whether all numbers of a selection fit into 64 bits. -/
def isStorable (selection : Selection) : Bool :=
  selection.namespaces.all Wiki.isStorable && Wiki.isStorable selection.skip &&
    selection.limit.all Wiki.isStorable

end Selection

namespace Store

/-- The wiki with a record put in its place. -/
def put (store : Store) (record : Record) : Except Refusal Store :=
  if storable : record.isStorable then
    if complete : record.isComplete then
      .ok { store with
        records := place record store.records
        sorted := pairwise_place record store.sorted
        kept := fun other h => (mem_of_mem_place h).elim
          (fun same => same ▸ ⟨storable, complete⟩) (store.kept other) }
    else .error .incomplete
  else .error .numberTooLarge

/-- The wiki without the record under a number. -/
def delete (store : Store) (id : Int) : Except Refusal Store :=
  if isStorable id then
    .ok { store with
      records := store.records.filter (·.id != id)
      sorted := store.sorted.filter _
      kept := fun other h => store.kept other (List.mem_filter.mp h).1 }
  else .error .numberTooLarge

/-- The wiki with a page in a category. -/
def enroll (store : Store) (id : Int) (category : Text) : Except Refusal Store :=
  if !isStorable id then .error .numberTooLarge
  else if new : (id, category) ∈ store.memberships then .ok store
  else
    .ok { store with
      memberships := (id, category) :: store.memberships
      distinct := List.nodup_cons.mpr ⟨new, store.distinct⟩ }

/-- The record under a number. -/
def record? (store : Store) (id : Int) : Option Record :=
  store.records.find? (·.id = id)

/-- The page with a number. -/
def page (store : Store) (id : Int) : Except Refusal SourcePage :=
  if !isStorable id then .error .numberTooLarge
  else match store.record? id with
    | some record => .ok record.page
    | none => .error (.noPage id)

/-- The pages that a selection shows. -/
def pages (store : Store) (selection : Selection) : Except Refusal (List SourcePage) :=
  if selection.isStorable then
    .ok ((selection.window (store.records.filter selection.admits)).map Record.page)
  else .error .numberTooLarge

/-- The categories of a page in increasing order. -/
def categories (store : Store) (id : Int) : Except Refusal (List Text) :=
  if isStorable id then
    .ok (sort ((store.memberships.filter (·.1 = id)).map (·.2)))
  else .error .numberTooLarge

/-- The catalog of the templates of the wiki. -/
def catalog (store : Store) : Template.Catalog :=
  .ofTitles ((store.records.filter (·.namespaceNumber = Namespace.template.number)).map
    fun record => record.title.getD [])

/-- The page with a number, migrated. -/
def migrated (store : Store) (projectPrefix : Text) (id : Int) :
    Except Refusal MigratedPage := do
  let page ← store.page id
  return page.migrate store.catalog projectPrefix (← store.categories id)

/-- The pages that a selection shows, migrated. -/
def migratedPages (store : Store) (projectPrefix : Text) (selection : Selection) :
    Except Refusal (List MigratedPage) :=
  return (← store.pages selection).map fun page => page.migrate store.catalog projectPrefix

end Store

/-- What is told to someone who asks for a page that is not there. -/
def missingMessage (id : Int) : Text :=
  "Page ".toList ++ ofInt id ++ " not found".toList

end DekiMigration.Wiki
