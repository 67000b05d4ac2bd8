/-!
# History of the console

The lines entered at the console, oldest first, as they are kept between sessions: a file with a
line of its version and then one line for each entry.  In an entry a backslash and a line break are
written as two characters.  Main statement: reading what was written gives the entry back.
-/

namespace Custody.CommandLine

/-- The lines that were entered. -/
structure History where
  entries : List String := []
  /-- Whether lines were added since the history was read. -/
  changed : Bool := false
  deriving DecidableEq, Repr

namespace History

/-- How many entries are kept. -/
def capacity : Nat := 100

/-- Add a line.  An empty line, and one that repeats the line before it, are left out; the oldest
entry makes room for a new one. -/
def add (history : History) (line : String) : History :=
  if line = "" || history.entries.getLast? = some line then history
  else
    let entries := history.entries ++ [line]
    ⟨entries.drop (entries.length - capacity), true⟩

/-- The written form of an entry. -/
def escape : List Char → List Char
  | [] => []
  | '\\' :: rest => '\\' :: '\\' :: escape rest
  | '\n' :: rest => '\\' :: 'n' :: escape rest
  | c :: rest => c :: escape rest

/-- The entry of a written form.  A backslash before any other character has no reading. -/
def unescape? : List Char → Option (List Char)
  | [] => some []
  | '\\' :: '\\' :: rest => (unescape? rest).map ('\\' :: ·)
  | '\\' :: 'n' :: rest => (unescape? rest).map ('\n' :: ·)
  | '\\' :: _ => none
  | c :: rest => (unescape? rest).map (c :: ·)

/-- The line that a file of escaped entries begins with. -/
def version : String := "#V2"

/-- The lines of a text, without their line breaks. -/
def linesFrom (line : List Char) : List Char → List (List Char)
  | [] => if line.isEmpty then [] else [line.reverse]
  | '\n' :: rest =>
    let ended := match line with
      | '\r' :: before => before
      | _ => line
    ended.reverse :: linesFrom [] rest
  | c :: rest => linesFrom (c :: line) rest

/-- The entry of a line of the file.  A line without a reading stands for itself. -/
def entryOf (line : List Char) : String :=
  String.ofList ((unescape? line).getD line)

/-- The history that a file holds.  Without its version the entries are taken as they are. -/
def ofText (text : String) : History :=
  let entries : List String := match linesFrom [] text.toList with
    | [] => []
    | first :: rest =>
      if String.ofList first = version then rest.map entryOf
      else (first :: rest).map String.ofList
  { entries.foldl add {} with changed := false }

/-- The file of a history. -/
def toText (history : History) : String :=
  "".intercalate ((version :: history.entries.map fun entry =>
    String.ofList (escape entry.toList)).map (· ++ "\n"))

/-- The file to write at the end of a session, if lines were added. -/
def unsaved? (history : History) : Option String :=
  if history.changed then some history.toText else none

end History

end Custody.CommandLine
