import Testbed.Config.Basic

/-!
# The command line

A command line names one command; two options may stand before the command or after it, and what
stands after it counts. Arguments are read from left to right: what cannot be understood ends the
reading, and so does the wish for help or for the version.

A line that cannot be understood and one that wants help are results like any other (`Reading`), and
no configuration is looked for then. Of the options, the configuration file may be named on both
sides of the command, and the name behind it counts; a wish for debugging detail on either side is
one.
-/

namespace Testbed.Cli

/-- What the program is to do. There are three, and each is performed by itself. -/
inductive Command where
  /-- List the configured engines. -/
  | list
  /-- Ask an engine for its version. -/
  | probe (engine : String)
  /-- Run the control plane until interrupted. -/
  | run
  deriving DecidableEq, Repr

/-- **A command line that was understood.** Both options have the values that count after both sides
have been read. -/
structure Request where
  /-- The configuration file, if one is named. -/
  config : Option String := none
  /-- Whether debugging detail is wanted. -/
  debug : Bool := false
  /-- The command. -/
  command : Command
  deriving DecidableEq, Repr

/-- The topics of the help. One of them is the help itself. -/
inductive Topic where
  | all
  | list
  | probe
  | run
  | help
  deriving DecidableEq, Repr

/-- What a command line says. It is all that the arguments decide. -/
inductive Reading where
  /-- It is a request. -/
  | request (r : Request)
  /-- It wants help. -/
  | help (t : Topic)
  /-- It wants the version. -/
  | version
  /-- It cannot be understood. -/
  | wrong
  deriving DecidableEq, Repr

/-- The commands by name. The names are matched exactly. -/
def topics : List (String × Topic) :=
  [("computes", .list), ("probe", .probe), ("run", .run)]

/-- The topic of a command. The help is not among them, since it is no command. -/
def topicNamed? (name : String) : Option Topic :=
  (topics.find? (·.1 == name)).map (·.2)

/-- What has been read on one side of the command. They are kept apart for the two sides, as each
may be given once on a side. -/
structure Options where
  /-- The configuration file. -/
  config : Option String := none
  /-- Whether debugging detail is wanted. -/
  debug : Bool := false

/-- The options of both sides together: those behind the command count. A wish for detail cannot be
taken back. -/
def Options.merge (before after : Options) : Options where
  config := after.config.or before.config
  debug := before.debug || after.debug

/-- What an argument is. It is told by how the argument begins, before anything is known of options.
-/
inductive Argument where
  /-- From here on there are no options. -/
  | separator
  /-- A long option, possibly with a value. -/
  | long (name : String) (value : Option String)
  /-- A short option and what follows its letter. -/
  | short (letter : Char) (rest : String)
  /-- Anything else. -/
  | plain (text : String)
  deriving DecidableEq, Repr

/-- What an argument is. A minus sign alone is nothing special. -/
def Argument.ofText (text : String) : Argument :=
  match text.toList with
  | ['-', '-'] => .separator
  | '-' :: '-' :: l =>
    match l.dropWhile (· != '=') with
    | _ :: value => .long (String.ofList (l.takeWhile (· != '='))) (some (String.ofList value))
    | [] => .long (String.ofList l) none
  | '-' :: c :: l => .short c (String.ofList l)
  | _ => .plain text

/-- Whether an argument can be the value of the option before it. So a file whose name begins with a
minus sign has to be attached. -/
def isValue (text : String) : Bool :=
  match Argument.ofText text with
  | .plain _ => true
  | _ => false

/-- Takes the configuration file, which has a name and is named once on a side. An empty name is
refused. -/
def Options.setConfig? (o : Options) (file : String) : Option Options :=
  if file = "" ∨ o.config.isSome then none else some { o with config := some file }

/-- Takes the wish for debugging detail, once on a side. A second wish on the same side is a
mistake. -/
def Options.setDebug? (o : Options) : Option Options :=
  if o.debug then none else some { o with debug := true }

/-- The value that stands in an argument of a short option. A sign of equality in front is not part
of it. -/
def attached (rest : String) : String :=
  match rest.toList with
  | '=' :: l => String.ofList l
  | _ => rest

/-- Goes on with options, if they could be taken. It is the one place where a repeated option ends
the reading. -/
def goOn (next : Options → Reading) : Option Options → Reading
  | some o => next o
  | none => .wrong

/-- Reads what stands behind a command. `values` are the plain arguments so far; `onlyValues` tells
that there are no more options. Only one command takes a plain argument, and that one exactly one.
-/
def readCommand (topic : Topic) (finish : Options → List String → Reading) :
    Bool → Options → List String → List String → Reading
  | _, o, values, [] => finish o values
  | true, o, values, a :: rest =>
    if topic = .probe ∧ values.isEmpty then readCommand topic finish true o (values ++ [a]) rest
    else .wrong
  | false, o, values, a :: rest =>
    match Argument.ofText a with
    | .separator => readCommand topic finish true o values rest
    | .plain text =>
      if topic = .probe ∧ values.isEmpty then
        readCommand topic finish false o (values ++ [text]) rest
      else .wrong
    | .long "debug" none =>
      goOn (fun o => readCommand topic finish false o values rest) o.setDebug?
    | .long "help" none => .help topic
    | .long "config" (some file) =>
      goOn (fun o => readCommand topic finish false o values rest) (o.setConfig? file)
    | .long "config" none =>
      match rest with
      | file :: rest =>
        if isValue file then
          goOn (fun o => readCommand topic finish false o values rest) (o.setConfig? file)
        else .wrong
      | [] => .wrong
    | .long _ _ => .wrong
    | .short 'h' _ => .help topic
    | .short 'c' "" =>
      match rest with
      | file :: rest =>
        if isValue file then
          goOn (fun o => readCommand topic finish false o values rest) (o.setConfig? file)
        else .wrong
      | [] => .wrong
    | .short 'c' file =>
      goOn (fun o => readCommand topic finish false o values rest) (o.setConfig? (attached file))
    | .short _ _ => .wrong

/-- The request of a command with its options and plain arguments. A command that lacks its argument
cannot be understood. -/
def finishCommand (topic : Topic) (before : Options) (o : Options) (values : List String) :
    Reading :=
  let all := before.merge o
  match topic, values with
  | .list, _ => .request ⟨all.config, all.debug, .list⟩
  | .run, _ => .request ⟨all.config, all.debug, .run⟩
  | .probe, engine :: _ => .request ⟨all.config, all.debug, .probe engine⟩
  | .probe, [] => .wrong
  | .all, _ | .help, _ => .wrong

/-- Reads what stands behind the wish for help as a command. At most one command can be asked about.
-/
def readHelp : List String → Reading
  | [] => .help .all
  | [name] =>
    match topicNamed? name with
    | some topic => .help topic
    | none => if name = "help" then .help .help else .wrong
  | _ :: _ :: _ => .wrong

/-- Reads a command line from its start. The first plain argument is the command, and what follows
is its affair. -/
def readFrom : Options → List String → Reading
  | _, [] => .wrong
  | o, a :: rest =>
    match Argument.ofText a with
    | .separator => .wrong
    | .plain name =>
      match topicNamed? name with
      | some topic => readCommand topic (finishCommand topic o) false {} [] rest
      | none => if name = "help" then readHelp rest else .wrong
    | .long "debug" none => goOn (fun o => readFrom o rest) o.setDebug?
    | .long "help" none => .help .all
    | .long "version" none => .version
    | .long "config" (some file) => goOn (fun o => readFrom o rest) (o.setConfig? file)
    | .long "config" none =>
      match rest with
      | file :: rest =>
        if isValue file then goOn (fun o => readFrom o rest) (o.setConfig? file) else .wrong
      | [] => .wrong
    | .long _ _ => .wrong
    | .short 'h' _ => .help .all
    | .short 'V' _ => .version
    | .short 'c' "" =>
      match rest with
      | file :: rest =>
        if isValue file then goOn (fun o => readFrom o rest) (o.setConfig? file) else .wrong
      | [] => .wrong
    | .short 'c' file => goOn (fun o => readFrom o rest) (o.setConfig? (attached file))
    | .short _ _ => .wrong

/-- **Reads a command line.** Nothing at all is no command line. -/
def read (args : List String) : Reading := readFrom {} args

/-! ## Help -/

/-- The lines about the options that stand on both sides of a command. They are the same for every
topic but one. -/
def optionLines : List String :=
  ["Options:", "  -c, --config <FILE>  Configuration file (default: standard locations)",
    "      --debug          Debug logging", "  -h, --help           Print help"]

/-- What help is. It stands in two places. -/
def helpLine : String := "Print this message or the help of the given subcommand(s)"

/-- The lines of a topic: a summary, the usage, and what can be given. -/
def Topic.lines : Topic → List String
  | all =>
    ["Control plane for network topology emulation", "", "Usage: lattice [OPTIONS] <COMMAND>", "",
      "Commands:", "  computes  List the configured compute engines",
      "  probe     Ask a compute engine for its version",
      "  run       Run the controller until interrupted",
      "  help      " ++ helpLine, ""]
      ++ optionLines ++ ["  -V, --version        Print version"]
  | list =>
    ["List the configured compute engines", "", "Usage: lattice computes [OPTIONS]", ""]
      ++ optionLines
  | probe =>
    ["Ask a compute engine for its version", "", "Usage: lattice probe [OPTIONS] <COMPUTE_ID>", "",
      "Arguments:", "  <COMPUTE_ID>  Identifier of the engine (`[compute.<id>]` section)", ""]
      ++ optionLines
  | run =>
    ["Run the controller until interrupted", "", "Usage: lattice run [OPTIONS]", ""]
      ++ optionLines
  | help =>
    [helpLine, "", "Usage: lattice help [COMMAND]...", "", "Arguments:",
      "  [COMMAND]...  Print help for the subcommand(s)"]

/-- The text of a topic. Each line ends in a line break. -/
def Topic.text (t : Topic) : String := String.join (t.lines.map (· ++ "\n"))

/-- The complaint about a command line that cannot be understood. It does not say what was wrong. -/
def usageComplaint : String :=
  "error: invalid arguments\n\nUsage: lattice [OPTIONS] <COMMAND>\n\n"
    ++ "For more information, try '--help'.\n"

end Testbed.Cli
