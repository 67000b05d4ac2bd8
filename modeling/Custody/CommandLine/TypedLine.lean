import Custody.Text.Cluster
import Custody.Text.Utf8

/-!
# Typed lines

A line as it was typed: a backspace takes back the cluster before it.  Main statement: a line
without a backspace stands as it was typed.
-/

namespace Custody.CommandLine

/-- A line while it is typed: its characters, the last one first, and the sizes of its clusters in
bytes.  A size is noted in one byte, so of a cluster of 256 bytes or more only the remainder can
be taken back. -/
structure TypedLine where
  reversed : List Char := []
  sizes : List UInt8 := []
  deriving DecidableEq, Repr

namespace TypedLine

/-- The backspace. -/
def backspace : Char := '\x08'

/-- Drop a number of bytes from the front, if they are whole characters. -/
def dropBytes? : Nat → List Char → Option (List Char)
  | 0, text => some text
  | _ + 1, [] => none
  | count + 1, c :: rest =>
    if c.utf8Size ≤ count + 1 then dropBytes? (count + 1 - c.utf8Size) rest else none

/-- Take the last cluster back.  Nothing is left of a line that would be cut inside a
character. -/
def takeBack? (line : TypedLine) : Option TypedLine :=
  match line.sizes with
  | [] => some line
  | size :: sizes => (dropBytes? size.toNat line.reversed).map fun reversed => { reversed, sizes }

/-- Add a cluster. -/
def add (line : TypedLine) (cluster : List Char) : TypedLine :=
  { reversed := cluster.reverse ++ line.reversed
    sizes := UInt8.ofNat (Text.Utf8.width cluster) :: line.sizes }

/-- Type a cluster. -/
def type? (line : TypedLine) (cluster : List Char) : Option TypedLine :=
  if cluster = [backspace] then line.takeBack? else some (line.add cluster)

/-- The text of a line. -/
def text (line : TypedLine) : List Char :=
  line.reversed.reverse

/-- The text that typing leaves, if it leaves one. -/
def settle? (typed : List Char) : Option (List Char) :=
  ((Text.clusters typed).foldlM type? {}).map text

end TypedLine

end Custody.CommandLine
