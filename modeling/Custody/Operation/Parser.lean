import Custody.Double.Reader
import Custody.Operation.Basic
import Custody.Token.Lexer

/-!
# From tokens to operations

A stream is read line by line, and a semicolon ends a line too.  A line holds one statement.  A
statement that cannot be read is recorded as an error and the rest of its line is left out, so one
run reports the errors of every line up to a limit.
-/

namespace Custody

/-- A statement being read: the token under consideration, the span of the one before it, and the
lexemes that follow on the line. -/
structure Line where
  current : Token
  last : Span
  rest : List Lexeme

/-- Reading a part of a statement.  A reading that fails leaves a state too: where it was given
up. -/
abbrev Reading := ExceptT SyntaxError (StateM Line)

namespace Reading

/-- What a reading finds, and where it leaves the statement. -/
def run {α : Type} (reading : Reading α) (line : Line) : Except SyntaxError α × Line :=
  Id.run (StateT.run (ExceptT.run reading) line)

theorem run_bind {α β : Type} (reading : Reading α) (next : α → Reading β) (line : Line) :
    (reading >>= next).run line =
      match reading.run line with
      | (.ok value, after) => (next value).run after
      | (.error fault, after) => (.error fault, after) := by
  have runs : (reading >>= next).run line =
      StateT.run (ExceptT.bindCont next (reading.run line).1) (reading.run line).2 := rfl
  rw [runs]
  obtain ⟨result, after⟩ := reading.run line
  cases result <;> rfl

/-- The token under consideration. -/
def current : Reading Token := do
  return (← get).current

/-- Go on to the next token.  An error that stands in its place ends the statement, and is left
behind. -/
def advance : Reading Unit := do
  let line ← get
  match line.rest with
  | .ok token :: rest => set (⟨token, line.current.span, rest⟩ : Line)
  | .error fault :: rest =>
    set (⟨line.current, line.current.span, rest⟩ : Line)
    throw fault
  | [] => set { line with last := line.current.span }

/-- Refuse the current token. -/
def unexpected {α : Type} (expected : String) : Reading α := do
  let token ← current
  throw (.unexpectedToken expected token.describe token.span)

/-- Read a token of a kind. -/
def expect (kind : Token.Kind) (expected : String) : Reading Token := do
  let token ← current
  if token.kind = kind then
    advance
    return token
  else unexpected expected

/-- Read a name. -/
def name (expected : String) : Reading String := do
  return (← expect .name expected).text

/-- Read a word of a vocabulary. -/
def word {α : Type} (ofWord? : String → Option α) (context choices : String) : Reading α := do
  let token ← current
  if token.kind = .name then
    match ofWord? token.text with
    | some value =>
      advance
      return value
    | none => throw (.unknownKeyword token.text choices context token.span)
  else unexpected context

/-- Whether the statement cannot go on. -/
def atEnd : Reading Bool := do
  return (← current).endsLine

/-- Whether the current token is of a kind. -/
def at? (kind : Token.Kind) : Reading Bool := do
  return (← current).kind = kind

/-- Bytes from their hexadecimal digits. -/
def bytesOfDigits? : List Char → Option (List UInt8)
  | [] => some []
  | high :: low :: rest =>
    if isHexDigit high && isHexDigit low then
      (bytesOfDigits? rest).map (UInt8.ofNat (16 * digit high + digit low) :: ·)
    else none
  | [_] => none
where
  /-- The value of a hexadecimal digit. -/
  digit (c : Char) : Nat :=
    if c.isDigit then c.toNat - '0'.toNat else c.toLower.toNat - 'a'.toNat + 10

/-- The value of a literal token. -/
def valueOf (token : Token) : Except (Option LiteralFault) Value :=
  match token.kind with
  | .integer =>
    match Decimal.readInt64 token.text.toList with
    | .ok value => .ok (.integer value)
    | .error fault => .error (some (.integer token.text fault))
  | .float =>
    match Double.read? token.text.toList with
    | some value => .ok (.float value)
    | none => .error (some (.float token.text))
  | .string => .ok (.string token.text)
  | .yes => .ok (.bool true)
  | .no => .ok (.bool false)
  | .bytes =>
    match bytesOfDigits? token.text.toList with
    | some data => .ok (.bytes data)
    | none => .error (some (.bytes token.text))
  | _ => .error none

/-- Read a literal. -/
def value : Reading Value := do
  let token ← current
  match valueOf token with
  | .ok value =>
    advance
    return value
  | .error (some fault) => throw (.invalidLiteral fault token.span)
  | .error none => unexpected "a literal value"

/-- Read the bound of a range. -/
def bound : Reading Int64 := do
  let token ← expect .integer "an integer"
  match Decimal.readInt64 token.text.toList with
  | .ok value => return value
  | .error fault => throw (.invalidLiteral (.integer token.text fault) token.span)

/-- Read keys, with commas between them, through the closing brace.  The first argument bounds
the number of keys. -/
def keys : Nat → Reading (List Value)
  | 0 => return []
  | more + 1 => do
    if ← at? .rightBrace then
      advance
      return []
    else
      let key ← value
      if ← at? .comma then advance
      else unless ← at? .rightBrace do unexpected "',' or '\x7d'"
      return key :: (← keys more)

/-- Read `[low..high]` or `{key, key}`. -/
def extent : Reading Extent := do
  let line ← get
  match line.current.kind with
  | .leftSquare =>
    advance
    let low ← bound
    let _ ← expect .range "'..'"
    let high ← bound
    let _ ← expect .rightSquare "']'"
    return .range low high
  | .leftBrace =>
    advance
    return .keys (← keys (line.rest.length + 1))
  | _ => unexpected "an extent '[lo..hi]' or '\x7bkeys\x7d'"

/-- Read an extent unless the statement ends. -/
def extent? : Reading (Option Extent) := do
  if ← atEnd then return none else return some (← extent)

/-- Read an element type. -/
def element : Reading Element :=
  word Element.ofWord? "element type" "integer, float, string, bool, bytes"

/-- Read a perspective. -/
def perspective : Reading Perspective :=
  word Perspective.ofWord? "perspective" "lifo, fifo, hashed"

/-- Read `NAME: ELEMENT[KEY] MODE`, of which the key may be left out. -/
def declare : Reading Operation := do
  let container ← name "container name"
  let _ ← expect .colon "':'"
  let elementType ← element
  let key ←
    if ← at? .leftSquare then
      advance
      let key ← element
      let _ ← expect .rightSquare "']'"
      pure (some key)
    else pure none
  let mode ← word Mode.ofWord? "ownership mode" "owned, borrowed, mutable, shared"
  return .declare container elementType key mode

/-- Read `BINDING = CONTAINER PERSPECTIVE`, of which the perspective may be left out. -/
def bind : Reading Operation := do
  let binding ← name "binding name"
  let _ ← expect .equals "'='"
  let container ← name "container name"
  if ← atEnd then return .bind binding container none
  else return .bind binding container (some (← perspective))

/-- Read the operand of a push: `<- EFFECT SOURCE` or a literal.  A word that names an effect is
one only when a source follows; otherwise it is the source itself. -/
def operand : Reading Operand := do
  if ← at? .arrow then
    advance
    let first ← name "source binding or effect"
    let token ← current
    let sourceFollows := token.kind = .name ∧ !token.isWord "key" ∧ !token.isWord "as"
    match Effect.ofWord? first with
    | some effect =>
      if sourceFollows then return .transfer (← name "source binding") effect
      else return .transfer first .move
    | none => return .transfer first .move
  else return .value (← value)

/-- Read one of the options of a push that has not been given yet. -/
def pushOption (given : Option Value × Option Conversion) :
    Reading (Option Value × Option Conversion) := do
  let token ← current
  if token.endsLine then return given
  else if token.isWord "key" && given.1.isNone then
    advance
    return (some (← value), given.2)
  else if token.isWord "as" && given.2.isNone then
    advance
    let conversion ← word Conversion.ofWord? "conversion kind"
      "widen, truncate, format, parse, truthy, encode, decode, auto"
    return (given.1, some conversion)
  else unexpected "'key', 'as' or end of statement"

/-- Read `BINDING OPERAND`, then `key VALUE` and `as CONVERSION` in any order. -/
def push : Reading Operation := do
  let binding ← name "binding name"
  let operand ← operand
  let first ← pushOption (none, none)
  let second ← pushOption first
  let (key, conversion) ← pushOption second
  return .push binding operand key conversion

/-- Read `BINDING = SOURCE EXTENT MODE`. -/
def borrow : Reading Operation := do
  let binding ← name "binding name"
  let _ ← expect .equals "'='"
  let source ← name "source binding"
  let extent ← extent
  let mode ← word BorrowMode.ofWord? "borrow mode" "read, mut"
  return .borrow binding source extent mode

/-- Read captured bindings with commas between them.  The first argument bounds their number. -/
def captures : Nat → Reading (List Capture)
  | 0 => return []
  | more + 1 => do
    if ← atEnd then return []
    else
      let first ← name "captured binding"
      let token ← current
      let capture ←
        if first = "take" ∧ token.kind = .name then
          pure ⟨← name "captured binding", true⟩
        else pure ⟨first, false⟩
      if ← at? .comma then advance
      else unless ← atEnd do unexpected "',' or end of statement"
      return capture :: (← captures more)

/-- Read the arms of a choice, and whether it has a fallback.  The first argument bounds the
number of arms. -/
def arms : Nat → Reading (List Perspective × Bool)
  | 0 => return ([], false)
  | more + 1 => do
    let token ← current
    if token.endsLine then return ([], false)
    else if token.isWord "_" then
      advance
      let (later, _) ← arms more
      return (later, true)
    else
      let arm ← word Perspective.ofWord? "perspective" "lifo, fifo, hashed, _"
      if ← at? .comma then advance
      let (later, fallback) ← arms more
      return (arm :: later, fallback)

/-- Read `BINDING ARM ARM _`, of which at least one arm or the fallback must be there. -/
def choose : Reading Operation := do
  let binding ← name "binding name"
  let line ← get
  let (found, fallback) ← arms (line.rest.length + 1)
  if found.isEmpty && !fallback then unexpected "at least one match arm"
  else return .choose binding found fallback

/-- Read the opening brace of a scope. -/
def scope (kind : ScopeKind) : Reading Operation := do
  let _ ← expect .leftBrace "'\x7b'"
  return .enterScope kind

/-- The words that begin a statement. -/
def statementWords : String :=
  "declare, bind, push, pop, peek, borrow, perspective, flip, capture, spawn, release, match, \x7b, \x7d"

/-- Read the rest of a statement that begins with a word. -/
def afterWord (first : Token) : Reading Operation := do
  match first.text with
  | "declare" => declare
  | "bind" => bind
  | "push" => push
  | "pop" => return .pop (← name "binding name") (← extent?)
  | "peek" => return .peek (← name "binding name") (← extent?)
  | "borrow" => borrow
  | "perspective" => return .setPerspective (← name "binding name") (← perspective)
  | "flip" => return .flip (← name "binding name")
  | "capture" =>
    let target ← name "target binding"
    let _ ← expect .equals "'='"
    return .capture target (← name "source binding")
  | "spawn" => return .spawn (← captures ((← get).rest.length + 1))
  | "release" => return .release (← name "binding name")
  | "match" => choose
  | "fn" => scope .function
  | "task" => scope .task
  | "block" => scope .block
  | "global" => scope .global
  | _ => throw (.unknownKeyword first.text statementWords "statement" first.span)

/-- Read an operation. -/
def operation : Reading Operation := do
  let first ← current
  match first.kind with
  | .leftBrace =>
    advance
    return .enterScope .block
  | .rightBrace =>
    advance
    return .exitScope
  | .name =>
    advance
    afterWord first
  | _ => unexpected "a statement"

/-- Read a statement, which must take up its whole line. -/
def statement : Reading Node := do
  let first ← current
  let operation ← operation
  let line ← get
  if line.current.endsLine then return ⟨operation, first.span.cover line.last⟩
  else unexpected "end of statement"

end Reading

/-- Whether a lexeme ends a line. -/
def Lexeme.endsLine : Lexeme → Bool
  | .ok token => token.endsLine
  | .error _ => false

/-- The lines of a stream, each with the token that ends it. -/
def splitLines : List Lexeme → List (List Lexeme)
  | [] => []
  | lexeme :: rest =>
    if Lexeme.endsLine lexeme then [lexeme] :: splitLines rest
    else
      match splitLines rest with
      | [] => [[lexeme]]
      | line :: lines => (lexeme :: line) :: lines

/-- Read a line.  Errors in front of the statement's first token are reported one by one; after
an error inside the statement the rest of the line is left out. -/
def readLine : List Lexeme → List (Except SyntaxError Node)
  | [] => []
  | .error fault :: rest => .error fault :: readLine rest
  | .ok token :: rest =>
    if token.endsLine then []
    else [(Reading.statement.run ⟨token, {}, rest⟩).1]

/-- Gather the results of a stream: its operations, or its errors up to a limit, where zero is no
limit.  The last argument holds the errors found so far, the latest first. -/
def gather (limit : Nat) :
    List (Except SyntaxError Node) → List SyntaxError → Except (List SyntaxError) (List Node)
  | [], [] => .ok []
  | [], errors => .error errors.reverse
  | .ok node :: rest, errors => (gather limit rest errors).map (node :: ·)
  | .error fault :: rest, errors =>
    if limit ≠ 0 ∧ limit ≤ errors.length + 1 then .error (fault :: errors).reverse
    else gather limit rest (fault :: errors)

/-- Read a stream from a place on. -/
def Cursor.parse (cursor : Cursor) (limit : Nat) : Except (List SyntaxError) (List Node) :=
  gather limit ((splitLines cursor.lexemes).flatMap readLine) []

/-- Read a whole text. -/
def parse (code : String) (limit : Nat) : Except (List SyntaxError) (List Node) :=
  (Cursor.ofString code).parse limit

end Custody
