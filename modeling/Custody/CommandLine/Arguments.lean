import Custody.Settings

/-!
# Arguments of the command line

An argument is a flag, with or without a value, or a word.  Flags of settings may stand before and
after the verb, and the ones after it win.  A value in an argument of its own is looked at when the
next flag comes, so what follows a verb is read before the value in front of it.
-/

namespace Custody.CommandLine

/-- What the command line can be told to do. -/
inductive Verb
  | check
  | annotate
  | fmt
  | repl
  deriving DecidableEq, Repr

namespace Verb

/-- The word on the command line. -/
def name : Verb → String
  | .check => "check"
  | .annotate => "annotate"
  | .fmt => "fmt"
  | .repl => "repl"

/-- Every verb, in the order of the help text. -/
def all : List Verb := [.check, .annotate, .fmt, .repl]

/-- The verb of a word. -/
def ofName? (word : String) : Option Verb :=
  all.find? fun verb => verb.name = word

end Verb

/-- A flag. -/
inductive Flag
  | format
  | config
  | errorLimit
  | warningsAsErrors
  | noColor
  | verbose
  | output
  | help
  | version
  deriving DecidableEq, Repr

namespace Flag

/-- The flag of a word after two dashes. -/
def ofWord? : String → Option Flag
  | "format" => some .format
  | "config" => some .config
  | "error-limit" => some .errorLimit
  | "warnings-as-errors" => some .warningsAsErrors
  | "no-color" => some .noColor
  | "verbose" => some .verbose
  | "output" => some .output
  | "help" => some .help
  | "version" => some .version
  | _ => none

/-- The flag of a letter after one dash. -/
def ofLetter? : Char → Option Flag
  | 'v' => some .verbose
  | 'o' => some .output
  | 'h' => some .help
  | 'V' => some .version
  | _ => none

/-- Whether a value follows. -/
def takesValue : Flag → Bool
  | .format | .config | .errorLimit | .output => true
  | _ => false

/-- Whether a flag is known before the verb, or after it. -/
def isKnown (flag : Flag) (verb : Option Verb) : Bool :=
  match flag with
  | .output => verb = some .annotate
  | .version => verb.isNone
  | _ => true

end Flag

/-- What help can be asked about. -/
inductive Topic
  | program
  | verb (verb : Verb)
  | help
  deriving DecidableEq, Repr

/-- Why the arguments lead to no command. -/
inductive Stop
  | help (topic : Topic)
  | version
  | misuse
  deriving DecidableEq, Repr

/-- What the arguments give. -/
structure Given where
  format : Option ReportFormat := none
  config : Option String := none
  errorLimit : Option Nat := none
  strict : Bool := false
  noColor : Bool := false
  verbosity : Nat := 0
  output : Option String := none
  paths : List String := []
  deriving DecidableEq, Repr

/-- A number of findings: digits, with or without a plus sign. -/
def count? (text : String) : Option Nat :=
  let digits := match text.toList with
    | '+' :: rest => rest
    | characters => characters
  (Decimal.natural? digits).filter (· < UInt64.size)

/-- The name of a file, which is not empty. -/
def fileName? (text : String) : Option String :=
  if text = "" then none else some text

/-- A value that has not been given yet. -/
def once {α : Type} (before value : Option α) : Except Stop (Option α) :=
  if before.isSome || value.isNone then .error .misuse else .ok value

namespace Given

/-- Note the value of a flag. -/
def set (given : Given) (flag : Flag) (value : String) : Except Stop Given := do
  match flag with
  | .format => return { given with format := ← once given.format (ReportFormat.ofWord? value) }
  | .config => return { given with config := ← once given.config (fileName? value) }
  | .errorLimit => return { given with errorLimit := ← once given.errorLimit (count? value) }
  | .output => return { given with output := ← once given.output (fileName? value) }
  | _ => throw .misuse

/-- Note a flag without a value. -/
def raise (given : Given) (verb : Option Verb) (flag : Flag) : Except Stop Given :=
  match flag with
  | .warningsAsErrors =>
    if given.strict then .error .misuse else .ok { given with strict := true }
  | .noColor => if given.noColor then .error .misuse else .ok { given with noColor := true }
  | .verbose => .ok { given with verbosity := given.verbosity + 1 }
  | .help => .error (.help ((verb.map Topic.verb).getD .program))
  | .version => .error .version
  | _ => .error .misuse

/-- Note a word after the verb. -/
def addPath (given : Given) (verb : Verb) (word : String) : Except Stop Given := do
  let some path := fileName? word | throw .misuse
  match verb with
  | .check => return { given with paths := given.paths ++ [path] }
  | .annotate | .fmt =>
    if given.paths.isEmpty then return { given with paths := [path] } else throw .misuse
  | .repl => throw .misuse

/-- Note the value of a flag that was given in an argument of its own. -/
def settle (given : Given) : Option (Flag × String) → Except Stop Given
  | some (flag, value) => given.set flag value
  | none => .ok given

/-- What is given before and after the verb; the latter wins. -/
def overriding (inner outer : Given) : Given :=
  { inner with
    format := inner.format <|> outer.format
    config := inner.config <|> outer.config
    errorLimit := inner.errorLimit <|> outer.errorLimit
    strict := inner.strict || outer.strict
    noColor := inner.noColor || outer.noColor
    verbosity := inner.verbosity + outer.verbosity }

/-- The settings that are given. -/
def layer (given : Given) : Settings.Layer :=
  { errorLimit := given.errorLimit
    strict := if given.strict then some true else none
    format := given.format
    color := if given.noColor then some false else none }

end Given

/-- An argument that was read: all of it, or up to a value that is still to come. -/
inductive Reading
  | complete (given : Given)
  | awaiting (flag : Flag) (given : Given)
  deriving DecidableEq, Repr

/-- Whether an argument is a word and no flag. -/
def isWord (argument : String) : Bool :=
  argument = "-" || !argument.startsWith "-"

/-- Read a flag, and the value that is attached to it. -/
def readFlag (given : Given) (verb : Option Verb) (flag : Flag) (value : Option String) :
    Except Stop Reading :=
  if !flag.isKnown verb then .error .misuse
  else
    match flag.takesValue, value with
    | true, some value => (given.set flag value).map .complete
    | true, none => .ok (.awaiting flag given)
    | false, some _ => .error .misuse
    | false, none => (given.raise verb flag).map .complete

/-- Read the letters after one dash. -/
def readLetters (given : Given) (verb : Option Verb) : List Char → Except Stop Reading
  | [] => .ok (.complete given)
  | letter :: rest =>
    match Flag.ofLetter? letter with
    | none => .error .misuse
    | some flag =>
      if flag.takesValue then
        let attached := match rest with
          | [] => none
          | '=' :: value => some (String.ofList value)
          | value => some (String.ofList value)
        readFlag given verb flag attached
      else do
        match ← readFlag given verb flag none with
        | .complete given => readLetters given verb rest
        | .awaiting _ _ => throw .misuse

/-- Read the characters after two dashes. -/
def readLong (given : Given) (verb : Option Verb) (characters : List Char) : Except Stop Reading :=
  let name := String.ofList (characters.takeWhile (· ≠ '='))
  let value := match characters.dropWhile (· ≠ '=') with
    | _ :: value => some (String.ofList value)
    | [] => none
  match Flag.ofWord? name with
  | some flag => readFlag given verb flag value
  | none => .error .misuse

/-- Read an argument that is a flag. -/
def readDashed (given : Given) (verb : Option Verb) (argument : String) : Except Stop Reading :=
  match argument.toList with
  | '-' :: '-' :: characters => readLong given verb characters
  | '-' :: letters => readLetters given verb letters
  | _ => .error .misuse

/-- Read the arguments after the verb. -/
def readAfter (verb : Verb) : Given → List String → Except Stop Given
  | given, [] => .ok given
  | given, argument :: rest =>
    if argument = "--" then rest.foldlM (fun given word => given.addPath verb word) given
    else if isWord argument then do
      let given ← given.addPath verb argument
      readAfter verb given rest
    else do
      match ← readDashed given (some verb) argument with
      | .complete given => readAfter verb given rest
      | .awaiting flag given =>
        match rest with
        | [] => throw .misuse
        | value :: rest =>
          if isWord value then
            let given ← given.set flag value
            readAfter verb given rest
          else throw .misuse

/-- What is to be done. -/
inductive Command
  | check (paths : List String)
  | annotate (path : String) (output : Option String)
  | fmt (path : String)
  | repl
  deriving DecidableEq, Repr

/-- A command, and the settings given with it. -/
structure Invocation where
  command : Command
  layer : Settings.Layer
  /-- A file of settings. -/
  config : Option String
  deriving DecidableEq, Repr

/-- The command of a verb. -/
def commandOf (verb : Verb) (given : Given) : Except Stop Command :=
  match verb, given.paths with
  | .check, path :: rest => .ok (.check (path :: rest))
  | .annotate, [path] => .ok (.annotate path given.output)
  | .fmt, [path] => .ok (.fmt path)
  | .repl, [] => .ok .repl
  | _, _ => .error .misuse

/-- The answer to the words after a request for help. -/
def helpTopic : List String → Stop
  | [] => .help .program
  | ["help"] => .help .help
  | [word] => ((Verb.ofName? word).map fun verb => Stop.help (.verb verb)).getD .misuse
  | _ => .misuse

/-- Read the arguments from the first one on, with a value that is still to be looked at.  Without
a verb the console is meant. -/
def readFrom : Given → Option (Flag × String) → List String → Except Stop Invocation
  | given, pending, [] => do
    let given ← given.settle pending
    return ⟨.repl, given.layer, given.config⟩
  | given, pending, argument :: rest =>
    if argument = "--" then do
      if !rest.isEmpty then throw .misuse
      let given ← given.settle pending
      return ⟨.repl, given.layer, given.config⟩
    else if isWord argument then
      match Verb.ofName? argument with
      | some verb => do
        let inner ← readAfter verb {} rest
        let command ← commandOf verb inner
        let given := inner.overriding (← given.settle pending)
        return ⟨command, given.layer, given.config⟩
      | none => .error (if argument = "help" then helpTopic rest else .misuse)
    else do
      let given ← given.settle pending
      match ← readDashed given none argument with
      | .complete given => readFrom given none rest
      | .awaiting flag given =>
        match rest with
        | [] => throw .misuse
        | value :: rest =>
          if isWord value then readFrom given (some (flag, value)) rest else throw .misuse

/-- Read the arguments. -/
def read (arguments : List String) : Except Stop Invocation :=
  readFrom {} none arguments

end Custody.CommandLine
