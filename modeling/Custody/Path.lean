/-!
# Paths

Paths are separated by slashes.  The shown form of a path drops what does not change its meaning
and goes up where it can, without a look at any file.
-/

namespace Custody.Path

/-- The components of a path that matter: the empty ones and those that stay where they are do
not. -/
def components (path : String) : List String :=
  ((path.split (· = '/')).toList.map (·.copy)).filter fun component =>
    component ≠ "" && component ≠ "."

/-- Whether a path starts at the root. -/
def isAbsolute (path : String) : Bool :=
  path.startsWith "/"

/-- Components after going up where the last one is a directory.  The first argument holds the
components before, last first. -/
def resolve : List String → List String → List String
  | before, [] => before.reverse
  | before, ".." :: rest => resolve before.tail rest
  | before, component :: rest => resolve (component :: before) rest

/-- The shown form of a path. -/
def normalize (path : String) : String :=
  let joined := "/".intercalate (resolve [] (components path))
  if isAbsolute path then "/" ++ joined
  else if joined = "" then "." else joined

/-- The part of a name after its last dot.  A name that only begins with a dot has none. -/
def extensionOf? (name : List Char) : Option (List Char) :=
  let after := name.reverse.takeWhile (· ≠ '.')
  match name.reverse.dropWhile (· ≠ '.') with
  | _ :: _ :: _ => some after.reverse
  | _ => none

/-- The extension of the file that a path names. -/
def extension? (path : String) : Option String :=
  match (components path).getLast? with
  | some ".." => none
  | some name => (extensionOf? name.toList).map String.ofList
  | none => none

end Custody.Path
