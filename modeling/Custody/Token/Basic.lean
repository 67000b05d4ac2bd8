import Custody.Span

/-!
# Tokens

The words, literals and marks of the textual operation stream, each with the span it came from.
-/

namespace Custody

/-- What a token is. -/
inductive Token.Kind
  | integer
  | float
  | string
  | bytes
  | name
  | yes
  | no
  | leftSquare
  | rightSquare
  | leftBrace
  | rightBrace
  | comma
  | colon
  | equals
  | range
  | arrow
  /-- The end of a line, or a semicolon. -/
  | lineEnd
  /-- The end of the source. -/
  | stop
  deriving DecidableEq, Repr, Inhabited

/-- The name of a kind in listings. -/
def Token.Kind.label : Token.Kind → String
  | .integer => "int"
  | .float => "float"
  | .string => "str"
  | .bytes => "bytes"
  | .name => "ident"
  | .yes => "true"
  | .no => "false"
  | .leftSquare => "l_square"
  | .rightSquare => "r_square"
  | .leftBrace => "l_brace"
  | .rightBrace => "r_brace"
  | .comma => "comma"
  | .colon => "colon"
  | .equals => "asn"
  | .range => "range"
  | .arrow => "l_arrow"
  | .lineEnd => "newline"
  | .stop => "eof"

/-- A token.  The text of a string is its content, that of a number is free of separators, and
that of bytes is their digits. -/
structure Token where
  kind : Token.Kind
  span : Span
  text : String
  deriving DecidableEq, Repr

namespace Token

/-- The end of a source. -/
instance : Inhabited Token := ⟨⟨.stop, {}, ""⟩⟩

/-- Whether a statement cannot go on past the token. -/
def endsLine (token : Token) : Bool :=
  token.kind = .lineEnd ∨ token.kind = .stop

/-- Whether the token is a given word. -/
def isWord (token : Token) (word : String) : Bool :=
  token.kind = .name ∧ token.text = word

/-- The token in a listing. -/
def render (token : Token) : String :=
  match token.kind with
  | .lineEnd => "<nl>"
  | .stop => "<eof>"
  | kind => s!"<{kind.label}:{token.text}>"

/-- The token in a complaint about it. -/
def describe (token : Token) : String :=
  match token.kind with
  | .lineEnd => "end of line"
  | .stop => "end of input"
  | _ => s!"'{token.text}'"

end Token

end Custody
