import Custody.Identity
import Custody.SlotSet
import Custody.Span
import Custody.Table
import Custody.Value

/-!
# The ledger of borrows

The active borrow records, in the order of their creation.  Read-only borrows may overlap; a
mutable borrow overlaps nothing else; a write may touch no position under a borrow other than its
own, and a read none under a mutable borrow of someone else.

For each container the ledger also keeps a page with the identities of its records, the union of
the borrowed positions and that of the mutably borrowed ones.  Where they do not meet a footprint
there is no conflict, and the records need not be searched.
-/

namespace Custody

/-- What a borrow covers and who owns it. -/
structure Region where
  container : ContainerId
  /-- The extent as written, for messages. -/
  extent : Extent
  /-- The positions that the extent resolved to. -/
  slots : SlotSet
  mode : BorrowMode
  /-- The scope that owns the borrow and ends it on exit. -/
  scope : ScopeId
  /-- The view binding that acts through the borrow. -/
  holder : Option BindingId := none
  span : Span
  deriving DecidableEq, Repr

/-- An active borrow. -/
structure BorrowRecord extends Region where
  id : RecordId
  /-- Borrows of shared containers are not checked and never conflict. -/
  ledgered : Bool
  deriving DecidableEq, Repr

/-- The borrowed positions of one container. -/
structure Occupancy where
  borrowed : SlotSet := .empty
  mutable : SlotSet := .empty
  deriving DecidableEq, Repr

namespace Occupancy

/-- The positions after one more borrow. -/
def add (occupancy : Occupancy) (mode : BorrowMode) (slots : SlotSet) : Occupancy where
  borrowed := occupancy.borrowed.union slots
  mutable := if mode.isMutable then occupancy.mutable.union slots else occupancy.mutable

/-- The positions that the checked ones among some records cover. -/
def ofRecords (records : List BorrowRecord) : Occupancy :=
  (records.filter (·.ledgered)).foldl (fun all record => all.add record.mode record.slots) {}

end Occupancy

/-- What the ledger keeps for one container. -/
structure Page extends Occupancy where
  /-- The active borrows of the container, in the order of their creation. -/
  records : List RecordId := []
  deriving DecidableEq, Repr

/-- The active borrows. -/
structure Ledger where
  records : List BorrowRecord := []
  pages : Table ContainerId Page := []
  nextId : Nat := 0
  deriving DecidableEq, Repr

namespace Ledger

/-- The page of a container. -/
def page (ledger : Ledger) (container : ContainerId) : Page :=
  (ledger.pages.get? container).getD {}

/-- Store the page of a container. -/
def setPage (ledger : Ledger) (container : ContainerId) (page : Page) : Ledger :=
  { ledger with pages := ledger.pages.insert container page }

/-- Change the page of a container that has one. -/
def modifyPage (ledger : Ledger) (container : ContainerId) (change : Page → Page) : Ledger :=
  match ledger.pages.get? container with
  | some page => ledger.setPage container (change page)
  | none => ledger

/-- The active borrow of an identity. -/
def get? (ledger : Ledger) (id : RecordId) : Option BorrowRecord :=
  ledger.records.find? (·.id = id)

/-- The active borrows of a container, in the order of their creation. -/
def recordsOn (ledger : Ledger) (container : ContainerId) : List BorrowRecord :=
  (ledger.page container).records.filterMap ledger.get?

/-- The first checked borrow of a container other than an excepted one. -/
def firstOn? (ledger : Ledger) (container : ContainerId) (except : Option RecordId) :
    Option BorrowRecord :=
  (ledger.recordsOn container).find? fun record => some record.id ≠ except && record.ledgered

/-- The first checked borrow of a container, other than an excepted one, that meets a footprint. -/
def firstConflict (ledger : Ledger) (container : ContainerId) (footprint : SlotSet)
    (except : Option RecordId) (mutableOnly : Bool) : Except BorrowRecord Unit :=
  let blocks (record : BorrowRecord) : Bool :=
    some record.id ≠ except && record.ledgered && (!mutableOnly || record.mode.isMutable) &&
      record.slots.intersects footprint
  match (ledger.recordsOn container).find? blocks with
  | some record => .error record
  | none => .ok ()

/-- A write conflicts with every borrow that meets its footprint but an excepted one. -/
def checkWrite (ledger : Ledger) (container : ContainerId) (footprint : SlotSet)
    (except : Option RecordId) : Except BorrowRecord Unit :=
  if (ledger.page container).borrowed.intersects footprint then
    ledger.firstConflict container footprint except false
  else .ok ()

/-- A read conflicts with every mutable borrow that meets its footprint but an excepted one. -/
def checkRead (ledger : Ledger) (container : ContainerId) (footprint : SlotSet)
    (except : Option RecordId) : Except BorrowRecord Unit :=
  if (ledger.page container).mutable.intersects footprint then
    ledger.firstConflict container footprint except true
  else .ok ()

/-- Add a record. -/
def insert (ledger : Ledger) (region : Region) (ledgered : Bool) : RecordId × Ledger :=
  let id : RecordId := ⟨ledger.nextId⟩
  let page := ledger.page region.container
  let occupancy := page.toOccupancy
  let stored := ledger.setPage region.container
    { toOccupancy := if ledgered then occupancy.add region.mode region.slots else occupancy
      records := page.records ++ [id] }
  (id, { stored with
    records := ledger.records ++ [{ region with id, ledgered }]
    nextId := ledger.nextId + 1 })

/-- Check a borrow against the active ones and add it.  The excepted record may overlap it: it is
the one that the borrow is taken through. -/
def borrow (ledger : Ledger) (region : Region) (except : Option RecordId) :
    Except BorrowRecord (RecordId × Ledger) := do
  if region.mode.isMutable then
    ledger.checkWrite region.container region.slots except
  else
    ledger.checkRead region.container region.slots except
  return ledger.insert region true

/-- Add a borrow that takes no part in conflicts. -/
def recordUnchecked (ledger : Ledger) (region : Region) : RecordId × Ledger :=
  ledger.insert region false

/-- Change a record. -/
def modify (ledger : Ledger) (id : RecordId) (change : BorrowRecord → BorrowRecord) : Ledger :=
  { ledger with
    records := ledger.records.map fun record => if record.id = id then change record else record }

/-- Name the view that acts through a record. -/
def setHolder (ledger : Ledger) (id : RecordId) (holder : BindingId) : Ledger :=
  ledger.modify id fun record => { record with holder := some holder }

/-- Compute the borrowed positions of a container anew. -/
def recount (ledger : Ledger) (container : ContainerId) : Ledger :=
  ledger.modifyPage container fun page =>
    { page with toOccupancy := .ofRecords (ledger.recordsOn container) }

/-- Replace the positions of a record after its holder changed the container through it. -/
def rebase (ledger : Ledger) (id : RecordId) (slots : SlotSet) : Ledger :=
  match ledger.get? id with
  | some record => (ledger.modify id fun record => { record with slots }).recount record.container
  | none => ledger

/-- End a borrow. -/
def release (ledger : Ledger) (id : RecordId) : Option BorrowRecord × Ledger :=
  match ledger.get? id with
  | some record =>
    let rest := { ledger with records := ledger.records.filter (·.id ≠ id) }
    let struck := rest.modifyPage record.container fun page =>
      { page with records := page.records.filter (· ≠ id) }
    (some record, struck.recount record.container)
  | none => (none, ledger)

/-- End several borrows, in their order. -/
def releaseAll : List RecordId → Ledger → List BorrowRecord × Ledger
  | [], ledger => ([], ledger)
  | id :: rest, ledger =>
    let (released, ledger) := ledger.release id
    let (others, ledger) := releaseAll rest ledger
    (released.toList ++ others, ledger)

/-- End the borrows that a scope owns, oldest first. -/
def releaseScope (ledger : Ledger) (scope : ScopeId) : List BorrowRecord × Ledger :=
  releaseAll ((ledger.records.filter (·.scope = scope)).map (·.id)) ledger

/-- The number of active borrows. -/
def size (ledger : Ledger) : Nat :=
  ledger.records.length

end Ledger

end Custody
