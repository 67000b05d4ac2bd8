import Custody.Operation.Basic

/-!
# Canonical text of operations

Each operation has one written form, and a stream is written one operation a line, indented by
the depth of its scope.
-/

namespace Custody

/-- A value behind a word, when there is one. -/
def suffix (word : String) : Option (List Char) → List Char
  | some text => word.toList ++ text
  | none => []

/-- The operand of a push; the effect of a move is not written. -/
def Operand.literal : Operand → List Char
  | .value literal => literal.literal
  | .transfer source .move => "<- ".toList ++ source.toList
  | .transfer source effect => "<- ".toList ++ effect.name.toList ++ ' ' :: source.toList

/-- A captured binding. -/
def Capture.literal (capture : Capture) : List Char :=
  (if capture.take then "take ".toList else []) ++ capture.binding.toList

/-- The words in front of the opening brace of a scope. -/
def ScopeKind.opening : ScopeKind → List Char
  | .block => ['\x7b']
  | .function => "fn \x7b".toList
  | .task => "task \x7b".toList
  | .global => "global \x7b".toList

/-- The written form of an operation. -/
def Operation.literal : Operation → List Char
  | .declare container element key mode =>
    "declare ".toList ++ container.toList ++ ": ".toList ++ element.name.toList ++
      (match key with
        | some key => '[' :: (key.name.toList ++ [']'])
        | none => []) ++ ' ' :: mode.name.toList
  | .bind binding container perspective =>
    "bind ".toList ++ binding.toList ++ " = ".toList ++ container.toList ++
      suffix " " (perspective.map (·.name.toList))
  | .push binding operand key conversion =>
    "push ".toList ++ binding.toList ++ ' ' :: operand.literal ++
      suffix " key " (key.map Value.literal) ++
      suffix " as " (conversion.map (·.name.toList))
  | .pop binding extent =>
    "pop ".toList ++ binding.toList ++ suffix " " (extent.map Extent.literal)
  | .peek binding extent =>
    "peek ".toList ++ binding.toList ++ suffix " " (extent.map Extent.literal)
  | .borrow binding source extent mode =>
    "borrow ".toList ++ binding.toList ++ " = ".toList ++ source.toList ++
      ' ' :: extent.literal ++ ' ' :: mode.keyword.toList
  | .setPerspective binding perspective =>
    "perspective ".toList ++ binding.toList ++ ' ' :: perspective.name.toList
  | .flip binding => "flip ".toList ++ binding.toList
  | .capture target source => "capture ".toList ++ target.toList ++ " = ".toList ++ source.toList
  | .release binding => "release ".toList ++ binding.toList
  | .choose binding arms fallback =>
    "match ".toList ++ binding.toList ++ arms.flatMap (fun arm => ' ' :: arm.name.toList) ++
      (if fallback then " _".toList else [])
  | .enterScope kind => kind.opening
  | .exitScope => ['\x7d']
  | .spawn captures =>
    "spawn ".toList ++ ((captures.map Capture.literal).intersperse [',', ' ']).flatten

/-- The written form of a stream whose first operation stands at a depth. -/
def literalFrom : Nat → List Operation → List Char
  | _, [] => []
  | depth, operation :: rest =>
    let own := if operation = .exitScope then depth - 1 else depth
    let next := match operation with
      | .enterScope _ => own + 1
      | _ => own
    List.replicate (4 * own) ' ' ++ operation.literal ++ '\n' :: literalFrom next rest

/-- The canonical text of a stream. -/
def formatStream (nodes : List Node) : String :=
  String.ofList (literalFrom 0 (nodes.map (·.operation)))

end Custody
