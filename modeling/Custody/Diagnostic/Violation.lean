import Custody.Conversion
import Custody.Placement

/-!
# Violations

The rules of ownership, borrowing, lifetimes, ranges and perspectives that an operation can break.
Each breach carries what its wording names, and the wording is defined here and nowhere else.
-/

namespace Custody

/-- A mismatch of element or key types. -/
inductive TypeMismatch
  | notAddressable (container : String) (element : Element)
  | keyType (container : String) (key : Value) (wanted : Element)
  | missingKey (container : String) (wanted : Option Element)
  | unexpectedKey (container : String) (found : Element)
  | literal (value : Value) (element : Element)
  | reference (source : String) (found wanted : Element)
  | transfer (source target : String) (found wanted : Element)
  | keyedTake (source : String)
  | takenKeys (source : String) (found wanted : Option Element)
  | unkeyedSlot (source : String)
  | captured (source target : String) (found wanted : Element)
  deriving DecidableEq, Repr

/-- What an operation does to a container it needs write access to. -/
inductive WriteAction
  | push
  | pop
  | moveOut
  deriving DecidableEq, Repr

/-- The words of a write. -/
def WriteAction.words : WriteAction → String
  | .push => "push to"
  | .pop => "pop from"
  | .moveOut => "move out of"

/-- A breach of the ownership rules. -/
inductive OwnershipBreach
  | movedAway (container : String)
  | destroyed (container : String)
  | released (container : String)
  | notMutable (action : WriteAction) (container : String) (mode : Mode)
  | readOnlyView (action : WriteAction) (view : String)
  | popOutside (view : String) (extent : Extent)
  | pushOutside (view : String) (placement : Placement) (extent : Extent)
  | headOutside (container : String) (extent : Extent) (view : String)
  | notBorrowable (container : String) (mode : Mode)
  | mutableThroughReadOnly (view : String)
  | intoItself (effect : Effect) (container : String)
  | notTakeable (container : String) (mode : Mode)
  | takeThroughView (container : String)
  | sharedTaken (container : String)
  | notTakeableByTask (container : String) (mode : Mode)
  | notReleasable (container : String) (mode : Mode)
  | releaseThroughView (container : String)
  deriving DecidableEq, Repr

/-- What an operation does to borrowed positions. -/
inductive Attempt
  | pop (container : String)
  | read (container : String)
  | push (container : String)
  | moveOut (container : String)
  | borrow (mode : BorrowMode) (extent : Extent) (container : String)
  | headReference (effect : Effect) (container : String)
  | referencePush
  deriving DecidableEq, Repr

/-- The words of an attempt. -/
def Attempt.words : Attempt → String
  | .pop container => s!"pop from '{container}'"
  | .read container => s!"read of '{container}'"
  | .push container => s!"push to '{container}'"
  | .moveOut container => s!"move out of '{container}'"
  | .borrow mode extent container => s!"{mode.name} borrow {extent.render} of '{container}'"
  | .headReference effect container => s!"{effect.name} of the head of '{container}'"
  | .referencePush => "reference push"

/-- A clash with an active borrow. -/
inductive BorrowConflict
  | overlap (attempt : Attempt) (mode : BorrowMode) (extent : Extent)
  | taken (container : String)
  | takenByTask (container : String)
  deriving DecidableEq, Repr

/-- A reference that could outlive what it refers to. -/
inductive LifetimeBreach
  | borrowOutlives (container : String)
  | captureOutlives (source target : String)
  | staleView (view : String)
  | dangling (binding container : String)
  | viewIntoTask (view container : String)
  | untakenByTask (container : String) (mode : Mode)
  deriving DecidableEq, Repr

/-- An extent or a pop that does not fit the content. -/
inductive RangeFault
  | negativeBound (extent : Extent)
  | emptyRange (extent : Extent)
  | outOfBounds (extent : Extent) (container : String) (length : Nat)
  | emptyKeys
  | absentKey (key : Value) (container : String)
  | popNeedsKey (container : String)
  | popEmpty (container : String)
  | popByRange
  | popByKey (perspective : Perspective)
  | peekNeedsKey (container : String)
  | peekEmpty (container : String)
  | peekOutside (view : String) (extent : Extent)
  | borrowOutside (extent outer : Extent) (view : String)
  | emptySource (container : String)
  deriving DecidableEq, Repr

/-- A perspective that a binding cannot take. -/
inductive PerspectiveFault
  | needsKeyType
  | unkeyedBinding (container : String)
  | flipHashed
  | keyNeedsHashed (perspective : Perspective)
  deriving DecidableEq, Repr

namespace TypeMismatch

/-- A key type, or a phrase where there is none. -/
def keyWords (otherwise : String) : Option Element → String
  | some key => key.name
  | none => otherwise

/-- The type that was expected. -/
def expected : TypeMismatch → String
  | .notAddressable .. => "a keyed container"
  | .keyType _ _ wanted => wanted.name
  | .missingKey _ wanted => keyWords "a key" wanted
  | .unexpectedKey .. => "no key"
  | .literal _ element => element.name
  | .reference _ _ wanted => wanted.name
  | .transfer _ _ _ wanted => wanted.name
  | .keyedTake _ => "no key"
  | .takenKeys _ _ wanted => keyWords "no key" wanted
  | .unkeyedSlot _ => "a keyed slot"
  | .captured _ _ _ wanted => wanted.name

/-- The type that was found. -/
def found : TypeMismatch → String
  | .notAddressable _ element => s!"{element.name} without keys"
  | .keyType _ key _ => key.element.name
  | .missingKey .. => "no key"
  | .unexpectedKey _ found => found.name
  | .literal value _ => value.element.name
  | .reference _ found _ => found.name
  | .transfer _ _ found _ => found.name
  | .keyedTake _ => "a key"
  | .takenKeys _ found _ => keyWords "no key" found
  | .unkeyedSlot _ => "an unkeyed slot"
  | .captured _ _ found _ => found.name

/-- The wording. -/
def message : TypeMismatch → String
  | .notAddressable container _ =>
    s!"'{container}' has no key type and cannot be addressed by key"
  | .keyType container key _ =>
    s!"key {key.render} does not match the key type of '{container}'"
  | .missingKey container _ =>
    s!"a push to '{container}' under the hashed perspective needs a key"
  | .unexpectedKey container _ => s!"'{container}' has no key type"
  | .literal value element =>
    s!"cannot push {value.element.name} {value.render} onto a container of {element.name}"
  | .reference source found _ =>
    s!"a reference into '{source}' keeps the element type {found.name}"
  | .transfer source target found wanted =>
    s!"cannot push {found.name} from '{source}' onto '{target}' of {wanted.name}"
  | .keyedTake source => s!"taking '{source}' moves its slots with their own keys"
  | .takenKeys source _ _ =>
    s!"taking '{source}' under the hashed perspective needs matching key types"
  | .unkeyedSlot source => s!"'{source}' holds a slot without a key"
  | .captured source target _ _ =>
    s!"cannot capture '{source}' into '{target}': element or key types differ"

end TypeMismatch

/-- The wording of a breach of ownership. -/
def OwnershipBreach.message : OwnershipBreach → String
  | .movedAway container => s!"'{container}' was moved and cannot be used"
  | .destroyed container => s!"'{container}' was destroyed when its scope exited"
  | .released container => s!"shared container '{container}' was released"
  | .notMutable action container mode =>
    s!"cannot {action.words} '{container}': the container is {mode.name}"
  | .readOnlyView action view => s!"cannot {action.words} through read-only view '{view}'"
  | .popOutside view extent =>
    s!"pop through view '{view}' reaches outside its borrowed extent {extent.render}"
  | .pushOutside view placement extent =>
    s!"push through view '{view}' writes {placement.words} outside its borrowed extent {extent.render}"
  | .headOutside container extent view =>
    s!"the head of '{container}' lies outside the extent {extent.render} of view '{view}'"
  | .notBorrowable container mode =>
    s!"cannot borrow '{container}' mutably: the container is {mode.name}"
  | .mutableThroughReadOnly view => s!"cannot borrow mutably through read-only view '{view}'"
  | .intoItself effect container => s!"cannot {effect.name} '{container}' into itself"
  | .notTakeable container mode =>
    s!"only an owned container can be taken; '{container}' is {mode.name}"
  | .takeThroughView container => s!"cannot take '{container}' through a view"
  | .sharedTaken container =>
    s!"shared container '{container}' cannot be taken; capture it without take"
  | .notTakeableByTask container mode =>
    s!"only an owned container can be taken into a task; '{container}' is {mode.name}"
  | .notReleasable container mode =>
    s!"only shared containers can be released; '{container}' is {mode.name}"
  | .releaseThroughView container => s!"cannot release '{container}' through a view"

/-- The wording of a conflict. -/
def BorrowConflict.message : BorrowConflict → String
  | .overlap attempt mode extent =>
    s!"{attempt.words} overlaps the active {mode.name} borrow {extent.render}"
  | .taken container => s!"cannot take '{container}' while it is borrowed"
  | .takenByTask container => s!"cannot move '{container}' into a task while it is borrowed"

/-- The wording of a breach of lifetimes. -/
def LifetimeBreach.message : LifetimeBreach → String
  | .borrowOutlives container => s!"borrow of '{container}' would outlive the scope that owns it"
  | .captureOutlives source target =>
    s!"'{source}' borrows from a scope that ends before '{target}' goes out of scope"
  | .staleView view => s!"view '{view}' outlives the borrow it was captured from"
  | .dangling binding container =>
    s!"'{binding}' still refers to '{container}', which is destroyed when its scope exits"
  | .viewIntoTask view container =>
    s!"view '{view}' into '{container}' cannot cross a task boundary; " ++
      "capture a shared container or take ownership"
  | .untakenByTask container mode =>
    s!"'{container}' is {mode.name} and must be captured with take to cross a task boundary"

/-- The wording of a range fault. -/
def RangeFault.message : RangeFault → String
  | .negativeBound extent => s!"negative bound in {extent.render}"
  | .emptyRange extent => s!"empty range {extent.render}: lo is greater than hi"
  | .outOfBounds extent container length =>
    s!"{extent.render} is out of bounds for '{container}' of length {length}"
  | .emptyKeys => "empty key set"
  | .absentKey key container => s!"key {key.render} is not present in '{container}'"
  | .popNeedsKey container =>
    s!"a pop from '{container}' under the hashed perspective needs a key extent"
  | .popEmpty container => s!"cannot pop from empty container '{container}'"
  | .popByRange => "range extents are not valid under the hashed perspective; pop by key"
  | .popByKey perspective =>
    s!"key extents need the hashed perspective, but the binding is {perspective.name}"
  | .peekNeedsKey container =>
    s!"a peek into '{container}' under the hashed perspective needs a key extent"
  | .peekEmpty container => s!"cannot peek into empty container '{container}'"
  | .peekOutside view extent =>
    s!"peek through view '{view}' reaches outside its borrowed extent {extent.render}"
  | .borrowOutside extent outer view =>
    s!"{extent.render} lies outside the extent {outer.render} of view '{view}'"
  | .emptySource container => s!"'{container}' is empty"

/-- The wording of a perspective fault. -/
def PerspectiveFault.message : PerspectiveFault → String
  | .needsKeyType => "the hashed perspective needs a container with a key type"
  | .unkeyedBinding container =>
    s!"'{container}' has no key type and cannot be bound with the hashed perspective"
  | .flipHashed => "cannot flip a hashed perspective; set lifo or fifo explicitly"
  | .keyNeedsHashed perspective =>
    s!"keys can only be given under the hashed perspective, but the binding is {perspective.name}"

/-- The rule that an operation breaks. -/
inductive Violation
  | duplicate (name : String)
  | unknown (name : String)
  | typeMismatch (cause : TypeMismatch)
  | unsupported (cause : Conversion.Unsupported)
  | ownership (cause : OwnershipBreach)
  | conflict (cause : BorrowConflict)
  | lifetime (cause : LifetimeBreach)
  | range (cause : RangeFault)
  | perspective (cause : PerspectiveFault)
  | unmatchedExit
  | nonExhaustive (binding : String) (missing : List Perspective)
  deriving DecidableEq, Repr

end Custody
