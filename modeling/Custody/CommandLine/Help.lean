import Custody.CommandLine.Arguments

/-!
# Help texts

What the command line says about itself.
-/

namespace Custody.CommandLine

/-- What a verb does. -/
def Verb.about : Verb → String
  | .check => "Verify operation streams and report diagnostics"
  | .annotate => "Emit the annotated stream as JSON"
  | .fmt => "Print a stream in canonical text form"
  | .repl => "Interactive verification session"

/-- What follows a verb. -/
def Verb.operands : Verb → List String
  | .check => ["<PATHS>..."]
  | .annotate | .fmt => ["<PATH>"]
  | .repl => []

/-- A text filled up with blanks. -/
def pad (width : Nat) (text : String) : String :=
  text ++ String.ofList (List.replicate (width - text.length) ' ')

/-- The line of a flag. -/
def flagLine (short long about : String) : String :=
  "  " ++ pad 4 short ++ pad 29 long ++ about ++ "\n"

/-- The lines of the flags that every command has. -/
def sharedFlags : String :=
  flagLine "" "--format <FORMAT>" "Diagnostic format: human or json" ++
  flagLine "" "--config <CONFIG>"
    "Extra configuration file, applied after the user and project files" ++
  flagLine "" "--error-limit <ERROR_LIMIT>" "Maximum diagnostics shown per file, 0 for all" ++
  flagLine "" "--warnings-as-errors" "" ++
  flagLine "" "--no-color" "" ++
  flagLine "-v, " "--verbose..." "-v info, -vv debug, -vvv trace" ++
  flagLine "-h, " "--help" "Print help"

/-- The line of a verb. -/
def verbLine (name about : String) : String :=
  "  " ++ pad 10 name ++ about ++ "\n"

/-- What a request for help does. -/
def helpAbout : String := "Print this message or the help of the given subcommand(s)"

/-- The help on the command line as a whole. -/
def generalHelp : String :=
  "Command-line front-end of the stack container verifier\n\n" ++
  "Usage: stackc [OPTIONS] [COMMAND]\n\nCommands:\n" ++
  "".intercalate (Verb.all.map fun verb => verbLine verb.name verb.about) ++
  verbLine "help" helpAbout ++
  "\nOptions:\n" ++ sharedFlags ++ flagLine "-V, " "--version" "Print version"

/-- The help on one verb. -/
def verbHelp (verb : Verb) : String :=
  let usage := " ".intercalate (["stackc", verb.name, "[OPTIONS]"] ++ verb.operands)
  let operands :=
    if verb.operands.isEmpty then ""
    else "Arguments:\n" ++
      "".intercalate (verb.operands.map fun operand => s!"  {operand}  \n") ++ "\n"
  let own := if verb = .annotate then flagLine "-o, " "--output <OUTPUT>" "" else ""
  s!"{verb.about}\n\nUsage: {usage}\n\n{operands}Options:\n" ++ own ++ sharedFlags

/-- The help on help. -/
def helpOnHelp : String :=
  s!"{helpAbout}\n\nUsage: stackc help [COMMAND]...\n\nArguments:\n" ++
  "  [COMMAND]...  Print help for the subcommand(s)\n"

/-- The help text. -/
def helpText : Topic → String
  | .program => generalHelp
  | .verb verb => verbHelp verb
  | .help => helpOnHelp

/-- The name and the version. -/
def versionText : String := "stackc 0.1.0\n"

end Custody.CommandLine
