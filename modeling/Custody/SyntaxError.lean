import Custody.Decimal.Integer
import Custody.Span

/-!
# Syntax errors

Why a textual operation stream cannot be read.  Each error knows where it stands, its stable
code, and the wording shown to the writer of the stream.
-/

namespace Custody

/-- Why a literal is refused. -/
inductive LiteralFault
  | oddDigits
  | integer (text : String) (fault : Decimal.IntegerFault)
  | float (text : String)
  | bytes (text : String)
  deriving DecidableEq, Repr

/-- The wording of a refused literal. -/
def LiteralFault.message : LiteralFault → String
  | .oddDigits => "byte literals need an even number of hex digits"
  | .integer text fault => s!"integer {text}: {fault.message}"
  | .float text => s!"float {text}: invalid float literal"
  | .bytes text => s!"bytes 0x{text}"

/-- An error in the text of an operation stream. -/
inductive SyntaxError
  | unexpectedToken (expected found : String) (span : Span)
  | unterminatedString (span : Span)
  | invalidEscape (sequence : String) (span : Span)
  | invalidLiteral (fault : LiteralFault) (span : Span)
  | unknownKeyword (word expected context : String) (span : Span)
  | unexpectedChar (c : Char) (span : Span)
  deriving DecidableEq, Repr

namespace SyntaxError

/-- The kind of an error, as listings name it. -/
def kind : SyntaxError → String
  | .unexpectedToken .. => "UnexpectedToken"
  | .unterminatedString .. => "UnterminatedString"
  | .invalidEscape .. => "InvalidEscapeSequence"
  | .invalidLiteral .. => "InvalidLiteral"
  | .unknownKeyword .. => "UnknownKeyword"
  | .unexpectedChar .. => "UnexpectedChar"

/-- The stable code of an error. -/
def code : SyntaxError → String
  | .unexpectedToken .. => "stack_syntax_E0001"
  | .unterminatedString .. => "stack_syntax_E0002"
  | .invalidEscape .. => "stack_syntax_E0003"
  | .invalidLiteral .. => "stack_syntax_E0004"
  | .unknownKeyword .. => "stack_syntax_E0005"
  | .unexpectedChar .. => "stack_syntax_E0006"

/-- What is wrong. -/
def message : SyntaxError → String
  | .unexpectedToken .. => "unexpected token"
  | .unterminatedString .. => "unterminated string literal"
  | .invalidEscape .. => "invalid escape sequence"
  | .invalidLiteral .. => "invalid literal"
  | .unknownKeyword word .. => s!"unknown keyword '{word}'"
  | .unexpectedChar .. => "unexpected character"

/-- What to do about it. -/
def help? : SyntaxError → Option String
  | .unexpectedToken expected found _ => some s!"Expected {expected}, but found {found}"
  | .unterminatedString _ => some "Add a closing quote (\") to end the string"
  | .invalidEscape .. => some "Use \\n, \\t, \\\\, \\\" or \\0"
  | .invalidLiteral fault _ => some fault.message
  | .unknownKeyword _ expected .. => some s!"Expected one of: {expected}"
  | .unexpectedChar .. => none

/-- The note at the place of the error. -/
def label : SyntaxError → String
  | .unexpectedToken .. => "unexpected token"
  | .unterminatedString _ => "string starts here"
  | .invalidEscape .. => "invalid escape sequence"
  | .invalidLiteral .. => "here"
  | .unknownKeyword _ _ context _ => s!"not a known {context}"
  | .unexpectedChar c _ => s!"'{c}' is not valid here"

/-- Where the error stands. -/
def span : SyntaxError → Span
  | .unexpectedToken _ _ span => span
  | .unterminatedString span => span
  | .invalidEscape _ span => span
  | .invalidLiteral _ span => span
  | .unknownKeyword _ _ _ span => span
  | .unexpectedChar _ span => span

end SyntaxError

end Custody
