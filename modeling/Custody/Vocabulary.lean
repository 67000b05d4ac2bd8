/-!
# The words of operation streams

The closed vocabularies that containers, bindings and operations are described with.  Each word
has one printed form, `name`; some have a second spelling that `ofWord?` reads as well.
-/

namespace Custody

/-- A closed vocabulary: every word of a type, in declaration order, each under a name of its
own. -/
structure Vocabulary (α : Type) where
  all : List α
  name : α → String
  complete : ∀ word, word ∈ all
  distinct : (all.map name).Nodup

/-- Element type of a container, or key type of a keyed container. -/
inductive Element
  | integer
  | float
  | string
  | bool
  | bytes
  deriving DecidableEq, Repr, Inhabited

namespace Element

/-- The printed form. -/
def name : Element → String
  | .integer => "integer"
  | .float => "float"
  | .string => "string"
  | .bool => "bool"
  | .bytes => "bytes"

/-- Read a spelling. -/
def ofWord? : String → Option Element
  | "integer" | "int" => some .integer
  | "float" => some .float
  | "string" | "str" => some .string
  | "bool" => some .bool
  | "bytes" => some .bytes
  | _ => none

/-- Every element type, in declaration order. -/
def all : List Element := [.integer, .float, .string, .bool, .bytes]

/-- The names of all of them. -/
def vocabulary : Vocabulary Element where
  all := all
  name := name
  complete word := by cases word <;> decide
  distinct := by decide

end Element

/-- What happens to a container when the scope that declared it exits. -/
inductive ExitAction
  | destroy
  | forget
  | defer
  deriving DecidableEq, Repr

namespace ExitAction

/-- The printed form. -/
def name : ExitAction → String
  | .destroy => "destroy"
  | .forget => "forget"
  | .defer => "defer"

end ExitAction

/-- Ownership mode declared on a container. -/
inductive Mode
  | owned
  | borrowed
  | mutable
  | shared
  deriving DecidableEq, Repr, Inhabited

namespace Mode

/-- The printed form. -/
def name : Mode → String
  | .owned => "owned"
  | .borrowed => "borrowed"
  | .mutable => "mutable"
  | .shared => "shared"

/-- Read a spelling. -/
def ofWord? : String → Option Mode
  | "owned" => some .owned
  | "borrowed" => some .borrowed
  | "mutable" => some .mutable
  | "shared" => some .shared
  | _ => none

/-- Every mode, in declaration order. -/
def all : List Mode := [.owned, .borrowed, .mutable, .shared]

/-- The names of all of them. -/
def vocabulary : Vocabulary Mode where
  all := all
  name := name
  complete word := by cases word <;> decide
  distinct := by decide

/-- Whether slots may be pushed, popped and overwritten. -/
def canMutate : Mode → Bool
  | .borrowed => false
  | _ => true

/-- Whether the whole container may be moved away: only an owner can give its data away. -/
def canTake : Mode → Bool
  | .owned => true
  | _ => false

/-- Whether a mutable borrow may be taken. -/
def canBorrowMutably : Mode → Bool
  | .borrowed => false
  | _ => true

/-- Whether borrows are checked against each other.  Shared containers are synchronised when
the program runs. -/
def isLedgered : Mode → Bool
  | .shared => false
  | _ => true

/-- What the exit of the declaring scope does. -/
def onExit : Mode → ExitAction
  | .owned | .mutable => .destroy
  | .borrowed => .forget
  | .shared => .defer

end Mode

/-- Access discipline of a binding. -/
inductive Perspective
  | lifo
  | fifo
  | hashed
  deriving DecidableEq, Repr, Inhabited

namespace Perspective

/-- The printed form. -/
def name : Perspective → String
  | .lifo => "lifo"
  | .fifo => "fifo"
  | .hashed => "hashed"

/-- Read a spelling. -/
def ofWord? : String → Option Perspective
  | "lifo" => some .lifo
  | "fifo" => some .fifo
  | "hashed" | "hash" | "indexed" => some .hashed
  | _ => none

/-- Every perspective, in declaration order. -/
def all : List Perspective := [.lifo, .fifo, .hashed]

/-- The names of all of them. -/
def vocabulary : Vocabulary Perspective where
  all := all
  name := name
  complete word := by cases word <;> decide
  distinct := by decide

/-- The opposite order of access; a hashed perspective has none. -/
def flipped? : Perspective → Option Perspective
  | .lifo => some .fifo
  | .fifo => some .lifo
  | .hashed => none

end Perspective

/-- Mode of a borrow. -/
inductive BorrowMode
  | readOnly
  | mutable
  deriving DecidableEq, Repr, Inhabited

namespace BorrowMode

/-- The printed form. -/
def name : BorrowMode → String
  | .readOnly => "read_only"
  | .mutable => "mutable"

/-- Read a spelling. -/
def ofWord? : String → Option BorrowMode
  | "read_only" | "read" => some .readOnly
  | "mutable" | "mut" => some .mutable
  | _ => none

/-- Every borrow mode, in declaration order. -/
def all : List BorrowMode := [.readOnly, .mutable]

/-- The names of all of them. -/
def vocabulary : Vocabulary BorrowMode where
  all := all
  name := name
  complete word := by cases word <;> decide
  distinct := by decide

/-- Whether the borrow excludes all others. -/
def isMutable : BorrowMode → Bool
  | .readOnly => false
  | .mutable => true

/-- The word of the statement syntax. -/
def keyword : BorrowMode → String
  | .readOnly => "read"
  | .mutable => "mut"

end BorrowMode

/-- A conversion between element types. -/
inductive Conversion
  | widen
  | truncate
  | format
  | parse
  | truthy
  | encode
  | decode
  | auto
  deriving DecidableEq, Repr, Inhabited

namespace Conversion

/-- The printed form. -/
def name : Conversion → String
  | .widen => "widen"
  | .truncate => "truncate"
  | .format => "format"
  | .parse => "parse"
  | .truthy => "truthy"
  | .encode => "encode"
  | .decode => "decode"
  | .auto => "auto"

/-- Read a spelling. -/
def ofWord? : String → Option Conversion
  | "widen" => some .widen
  | "truncate" => some .truncate
  | "format" => some .format
  | "parse" => some .parse
  | "truthy" => some .truthy
  | "encode" => some .encode
  | "decode" => some .decode
  | "auto" => some .auto
  | _ => none

/-- Every conversion, in declaration order. -/
def all : List Conversion :=
  [.widen, .truncate, .format, .parse, .truthy, .encode, .decode, .auto]

/-- The names of all of them. -/
def vocabulary : Vocabulary Conversion where
  all := all
  name := name
  complete word := by cases word <;> decide
  distinct := by decide

end Conversion

/-- Ownership effect of a push from one container to another. -/
inductive Effect
  /-- Pop the source's head and push it onto the target. -/
  | move
  /-- Move the whole source container into the target. -/
  | take
  /-- Push a read-only reference to the source's head. -/
  | borrow
  /-- Push a mutable reference to the source's head. -/
  | borrowMut
  deriving DecidableEq, Repr, Inhabited

namespace Effect

/-- The printed form. -/
def name : Effect → String
  | .move => "move"
  | .take => "take"
  | .borrow => "borrow"
  | .borrowMut => "borrow_mut"

/-- Read a spelling. -/
def ofWord? : String → Option Effect
  | "move" => some .move
  | "take" => some .take
  | "borrow" => some .borrow
  | "borrow_mut" => some .borrowMut
  | _ => none

/-- Every effect, in declaration order. -/
def all : List Effect := [.move, .take, .borrow, .borrowMut]

/-- The names of all of them. -/
def vocabulary : Vocabulary Effect where
  all := all
  name := name
  complete word := by cases word <;> decide
  distinct := by decide

/-- The mode of the borrow that a reference push creates. -/
def borrowMode? : Effect → Option BorrowMode
  | .borrow => some .readOnly
  | .borrowMut => some .mutable
  | _ => none

end Effect

/-- Kind of a lexical scope. -/
inductive ScopeKind
  | global
  | function
  | block
  /-- Body of a spawned task. -/
  | task
  deriving DecidableEq, Repr, Inhabited

namespace ScopeKind

/-- The printed form. -/
def name : ScopeKind → String
  | .global => "global"
  | .function => "function"
  | .block => "block"
  | .task => "task"

/-- Read a spelling. -/
def ofWord? : String → Option ScopeKind
  | "global" => some .global
  | "function" => some .function
  | "block" => some .block
  | "task" => some .task
  | _ => none

/-- Every kind, in declaration order. -/
def all : List ScopeKind := [.global, .function, .block, .task]

/-- The names of all of them. -/
def vocabulary : Vocabulary ScopeKind where
  all := all
  name := name
  complete word := by cases word <;> decide
  distinct := by decide

end ScopeKind

/-- Whether a container still holds its data or has given it away. -/
inductive MoveState
  | available
  | moved
  deriving DecidableEq, Repr, Inhabited

namespace MoveState

/-- The printed form. -/
def name : MoveState → String
  | .available => "available"
  | .moved => "moved"

/-- Read a spelling. -/
def ofWord? : String → Option MoveState
  | "available" => some .available
  | "moved" => some .moved
  | _ => none

/-- Whether the data has been given away. -/
def isMoved : MoveState → Bool
  | .available => false
  | .moved => true

end MoveState

theorem Element.ofWord?_name (element : Element) : Element.ofWord? element.name = some element := by
  cases element <;> rfl

theorem Mode.ofWord?_name (mode : Mode) : Mode.ofWord? mode.name = some mode := by
  cases mode <;> rfl

theorem Perspective.ofWord?_name (perspective : Perspective) :
    Perspective.ofWord? perspective.name = some perspective := by
  cases perspective <;> rfl

theorem BorrowMode.ofWord?_keyword (mode : BorrowMode) :
    BorrowMode.ofWord? mode.keyword = some mode := by
  cases mode <;> rfl

theorem Conversion.ofWord?_name (conversion : Conversion) :
    Conversion.ofWord? conversion.name = some conversion := by
  cases conversion <;> rfl

theorem Effect.ofWord?_name (effect : Effect) : Effect.ofWord? effect.name = some effect := by
  cases effect <;> rfl

end Custody
