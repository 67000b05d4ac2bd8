import Custody.SyntaxError
import Custody.Text.Blank
import Custody.Text.Letter
import Custody.Text.Quoted
import Custody.Text.Utf8
import Custody.Token.Basic

/-!
# From text to tokens

A cursor stands in a text and knows the place it has reached.  `Cursor.next` reads the token
there, or the error that stands in its place, and moves on; it always consumes a character, so a
text is a finite list of lexemes that ends with the end of the source.
-/

namespace Custody

/-- A place in a text. -/
structure Cursor where
  rest : List Char
  line : Nat
  column : Nat
  offset : Nat
  deriving DecidableEq, Repr

/-- What stands at one place: a token, or an error. -/
abbrev Lexeme := Except SyntaxError Token

namespace Cursor

/-- The beginning of a text that stands at a line and a byte offset of a larger one. -/
def startingAt (code : String) (line offset : Nat) : Cursor :=
  ⟨code.toList, line, 0, offset⟩

/-- The beginning of a text. -/
def ofString (code : String) : Cursor :=
  startingAt code 1 0

/-- The next bytes on the line. -/
def span (cursor : Cursor) (length : Nat) : Span :=
  ⟨cursor.line, cursor.column, cursor.offset, length⟩

/-- Move on along the line. -/
def advance (cursor : Cursor) (rest : List Char) (columns bytes : Nat) : Cursor :=
  ⟨rest, cursor.line, cursor.column + columns, cursor.offset + bytes⟩

/-- Move past blanks, and past a comment when inside one; both end before a new line. -/
def skipFrom (line : Nat) : Bool → Nat → Nat → List Char → Cursor
  | _, column, offset, [] => ⟨[], line, column, offset⟩
  | comment, column, offset, c :: rest =>
    if c = '\n' then ⟨c :: rest, line, column, offset⟩
    else if comment || c = '#' then skipFrom line true (column + 1) (offset + c.utf8Size) rest
    else if Text.isBlank c then skipFrom line false (column + 1) (offset + c.utf8Size) rest
    else ⟨c :: rest, line, column, offset⟩

/-- Move past the blanks and comments of a line. -/
def skipBlanks (cursor : Cursor) : Cursor :=
  skipFrom cursor.line false cursor.column cursor.offset cursor.rest

/-- Read a token that spans the next bytes of the line. -/
def emit (cursor : Cursor) (kind : Token.Kind) (text : List Char) (bytes : Nat)
    (rest : List Char) : Lexeme × Cursor :=
  (.ok ⟨kind, cursor.span bytes, String.ofList text⟩, cursor.advance rest bytes bytes)

end Cursor

/-- The digits of a number: their text without separators, whether there is a point among them,
the number of characters read, and what follows. -/
structure DigitRun where
  text : List Char
  pointed : Bool
  count : Nat
  rest : List Char
  deriving DecidableEq, Repr

/-- Read digits and separators, and the first point that a digit follows. -/
def DigitRun.scan : Bool → List Char → DigitRun
  | pointed, [] => ⟨[], pointed, 0, []⟩
  | pointed, c :: rest =>
    if c.isDigit then
      let run := scan pointed rest
      { run with text := c :: run.text, count := run.count + 1 }
    else if c = '_' then
      let run := scan pointed rest
      { run with count := run.count + 1 }
    else if c = '.' ∧ !pointed ∧ rest.head?.any Char.isDigit then
      let run := scan true rest
      { run with text := c :: run.text, count := run.count + 1 }
    else ⟨[], pointed, 0, c :: rest⟩

/-- Whether a character is a hexadecimal digit. -/
def isHexDigit (c : Char) : Bool :=
  c.isDigit || ('a' ≤ c && c ≤ 'f') || ('A' ≤ c && c ≤ 'F')

/-- What stands after the opening quote of a string. -/
inductive StringScan
  /-- The content, the number of bytes through the closing quote, and what follows. -/
  | closed (text : List Char) (bytes : Nat) (rest : List Char)
  /-- What follows the end of the line. -/
  | unterminated (rest : List Char)
  /-- The offending escape, the number of bytes through it, and what follows. -/
  | badEscape (sequence : List Char) (bytes : Nat) (rest : List Char)
  deriving DecidableEq, Repr

namespace StringScan

/-- Put a character of the content, written in some bytes, in front. -/
def cons (c : Char) (width : Nat) : StringScan → StringScan
  | .closed text bytes rest => .closed (c :: text) (width + bytes) rest
  | .unterminated rest => .unterminated rest
  | .badEscape sequence bytes rest => .badEscape sequence (width + bytes) rest

/-- Read the content of a string through its closing quote. -/
def scan : List Char → StringScan
  | [] => .unterminated []
  | c :: rest =>
    if c = '\n' then .unterminated rest
    else if c = '"' then .closed [] 1 rest
    else if c = '\\' then
      match rest with
      | [] => .badEscape ['\\'] 1 []
      | letter :: after =>
        match Text.Quoted.ofShortEscape? letter with
        | some meant => (scan after).cons meant (1 + letter.utf8Size)
        | none => .badEscape ['\\', letter] (1 + letter.utf8Size) after
    else (scan rest).cons c c.utf8Size

end StringScan

/-- The marks of one character. -/
def Token.Kind.ofMark? (c : Char) : Option Token.Kind :=
  if c = ';' then some .lineEnd
  else if c = '[' then some .leftSquare
  else if c = ']' then some .rightSquare
  else if c = '\x7b' then some .leftBrace
  else if c = '\x7d' then some .rightBrace
  else if c = ',' then some .comma
  else if c = ':' then some .colon
  else if c = '=' then some .equals
  else none

/-- The kind of a word. -/
def Token.Kind.ofWord (word : List Char) : Token.Kind :=
  if word = ['t', 'r', 'u', 'e'] then .yes
  else if word = ['f', 'a', 'l', 's', 'e'] then .no
  else .name

/-- Whether a name may begin with a character. -/
def isNameStart (c : Char) : Bool :=
  Text.isLetter c || c = '_'

/-- Whether a name may go on with a character. -/
def isNameChar (c : Char) : Bool :=
  Text.isLetterOrNumeral c || c = '_'

namespace Cursor

/-- Read bytes whose mark, with a sign that counts for nothing, takes some characters. -/
def readBytes (cursor : Cursor) (mark : Nat) (rest : List Char) : Lexeme × Cursor :=
  let digits := rest.takeWhile isHexDigit
  let after := rest.dropWhile isHexDigit
  let bytes := mark + digits.length
  if digits.length % 2 = 0 then cursor.emit .bytes digits bytes after
  else (.error (.invalidLiteral .oddDigits (cursor.span bytes)), cursor.advance after bytes bytes)

/-- Read a number, or bytes.  The sign has been read already. -/
def readNumber (cursor : Cursor) (sign : List Char) : List Char → Lexeme × Cursor
  | '0' :: 'x' :: rest => cursor.readBytes (sign.length + 2) rest
  | rest =>
    let run := DigitRun.scan false rest
    let bytes := sign.length + run.count
    let text := sign ++ run.text
    if text = ['-'] then
      (.error (.unexpectedChar '-' (cursor.span bytes)), cursor.advance run.rest bytes bytes)
    else cursor.emit (if run.pointed then .float else .integer) text bytes run.rest

/-- Read a string whose opening quote has been read.  After an error the place is not moved on,
although the text is. -/
def readString (cursor : Cursor) (rest : List Char) : Lexeme × Cursor :=
  match StringScan.scan rest with
  | .closed text bytes after => cursor.emit .string text (1 + bytes) after
  | .unterminated after =>
    (.error (.unterminatedString (cursor.span 1)), { cursor with rest := after })
  | .badEscape sequence bytes after =>
    let start := 1 + bytes - 2
    let span : Span := ⟨cursor.line, cursor.column + start, cursor.offset + start, 2⟩
    (.error (.invalidEscape (String.ofList sequence) span), { cursor with rest := after })

/-- Refuse a character. -/
def refuse (cursor : Cursor) (c : Char) (rest : List Char) : Lexeme × Cursor :=
  (.error (.unexpectedChar c (cursor.span c.utf8Size)), cursor.advance rest 1 c.utf8Size)

/-- Read the lexeme that begins with a character which is neither blank nor part of a comment. -/
def readFrom (cursor : Cursor) (c : Char) (rest : List Char) : Lexeme × Cursor :=
  if c = '\n' then
    (.ok ⟨.lineEnd, cursor.span 1, "\n"⟩, ⟨rest, cursor.line + 1, 0, cursor.offset + 1⟩)
  else
    match Token.Kind.ofMark? c with
    | some kind => cursor.emit kind [c] 1 rest
    | none =>
      if c = '"' then cursor.readString rest
      else if c = '.' then
        match rest with
        | '.' :: after => cursor.emit .range ['.', '.'] 2 after
        | _ => cursor.refuse c rest
      else if c = '<' then
        match rest with
        | '-' :: after => cursor.emit .arrow ['<', '-'] 2 after
        | _ => cursor.refuse c rest
      else if c = '-' then cursor.readNumber ['-'] rest
      else if c.isDigit then cursor.readNumber [] (c :: rest)
      else if isNameStart c then
        let word := c :: rest.takeWhile isNameChar
        cursor.emit (.ofWord word) word (Text.Utf8.width word) (rest.dropWhile isNameChar)
      else cursor.refuse c rest

/-- Read the next lexeme. -/
def next (cursor : Cursor) : Lexeme × Cursor :=
  let here := cursor.skipBlanks
  match here.rest with
  | [] => (.ok ⟨.stop, here.span 0, ""⟩, here)
  | c :: rest => here.readFrom c rest

/-- The lexemes from a place on, at most as many as the first argument says. -/
def lexemesWithin : Nat → Cursor → List Lexeme
  | 0, _ => []
  | bound + 1, cursor =>
    match cursor.next with
    | (.ok token, after) =>
      if token.kind = .stop then [.ok token] else .ok token :: lexemesWithin bound after
    | (.error fault, after) => .error fault :: lexemesWithin bound after

/-- All lexemes from a place on; the last one is the end of the source. -/
def lexemes (cursor : Cursor) : List Lexeme :=
  lexemesWithin (cursor.rest.length + 1) cursor

end Cursor

/-- The tokens of a text, or its first error. -/
def tokenize (code : String) : Except SyntaxError (List Token) :=
  (Cursor.ofString code).lexemes.mapM id

end Custody
