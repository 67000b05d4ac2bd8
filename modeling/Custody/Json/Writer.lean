import Custody.Double.Printer
import Custody.Json.Numeral

/-!
# Writing interchange documents

Documents are written compactly, or with a member or element on each line.  Strings escape only
what the grammar demands.
-/

namespace Custody.Json

/-- How a character stands in a string. -/
def escapeChar (c : Char) : List Char :=
  if c = '"' then ['\\', '"']
  else if c = '\\' then ['\\', '\\']
  else if c = '\x08' then ['\\', 'b']
  else if c = '\t' then ['\\', 't']
  else if c = '\n' then ['\\', 'n']
  else if c = '\x0c' then ['\\', 'f']
  else if c = '\r' then ['\\', 'r']
  else if c.toNat < 0x20 then
    ['\\', 'u', '0', '0', Nat.digitChar (c.toNat / 16), Nat.digitChar (c.toNat % 16)]
  else [c]

/-- A text in quotes. -/
def quote (text : List Char) : List Char :=
  '"' :: (text.flatMap escapeChar ++ ['"'])

/-- The quoted text of a string, empty when it has none. -/
def quoteText (text : Option String) : List Char :=
  quote ((text.getD "").toList)

mutual

/-- A document on one line. -/
def compact : Json → List Char
  | .null => ['n', 'u', 'l', 'l']
  | .bool true => ['t', 'r', 'u', 'e']
  | .bool false => ['f', 'a', 'l', 's', 'e']
  | .number literal => literal
  | .string text => quoteText text
  | .array [] => ['[', ']']
  | .array (first :: rest) => '[' :: (compact first ++ compactElements rest)
  | .object [] => ['\x7b', '\x7d']
  | .object ((name, value) :: rest) =>
    '\x7b' :: (quoteText name ++ ':' :: (compact value ++ compactMembers rest))

/-- The elements after the first, through the closing bracket. -/
def compactElements : List Json → List Char
  | [] => [']']
  | element :: rest => ',' :: (compact element ++ compactElements rest)

/-- The members after the first, through the closing brace. -/
def compactMembers : List (Option String × Json) → List Char
  | [] => ['\x7d']
  | (name, value) :: rest =>
    ',' :: (quoteText name ++ ':' :: (compact value ++ compactMembers rest))

end

/-- A new line, indented to a depth. -/
def breakLine (depth : Nat) : List Char :=
  '\n' :: List.replicate (2 * depth) ' '

mutual

/-- A document over several lines, its first line at a depth. -/
def pretty (depth : Nat) : Json → List Char
  | .null => ['n', 'u', 'l', 'l']
  | .bool true => ['t', 'r', 'u', 'e']
  | .bool false => ['f', 'a', 'l', 's', 'e']
  | .number literal => literal
  | .string text => quoteText text
  | .array [] => ['[', ']']
  | .array (first :: rest) =>
    '[' :: (breakLine (depth + 1) ++ pretty (depth + 1) first ++ prettyElements depth rest)
  | .object [] => ['\x7b', '\x7d']
  | .object ((name, value) :: rest) =>
    '\x7b' :: (breakLine (depth + 1) ++ quoteText name ++ ':' :: ' ' ::
      (pretty (depth + 1) value ++ prettyMembers depth rest))

/-- The elements after the first, through the closing bracket. -/
def prettyElements (depth : Nat) : List Json → List Char
  | [] => breakLine depth ++ [']']
  | element :: rest =>
    ',' :: (breakLine (depth + 1) ++ pretty (depth + 1) element ++ prettyElements depth rest)

/-- The members after the first, through the closing brace. -/
def prettyMembers (depth : Nat) : List (Option String × Json) → List Char
  | [] => breakLine depth ++ ['\x7d']
  | (name, value) :: rest =>
    ',' :: (breakLine (depth + 1) ++ quoteText name ++ ':' :: ' ' ::
      (pretty (depth + 1) value ++ prettyMembers depth rest))

end

/-- The document of a double; a double that is not finite has none but null. -/
def ofDouble (x : Double) : Json :=
  if x.isFinite then .number (x.text Double.interchangeStyle) else .null

/-- The compact text of a document. -/
def render (json : Json) : String :=
  String.ofList json.compact

/-- The text of a document over several lines. -/
def renderPretty (json : Json) : String :=
  String.ofList (json.pretty 0)

end Custody.Json
