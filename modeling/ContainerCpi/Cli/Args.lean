import ContainerCpi.Config.Logging
import ContainerCpi.Text.Similarity
import ContainerCpi.Text.Basic

/-!
# The command line

The program takes the path of its configuration file (`-c`/`--config`, or the environment
variable `DOCKER_CPI_CONFIG`), a verbosity count (`-v`, repeatable) and a console log
format (`--log-format pretty|json|compact`), and prints its help (`-h` short, `--help`
long) or version (`-V`/`--version`) on request.

Options are read left to right.  A value follows its option after `=`, as the next argument,
or (for a short option) right after the letter; short flags may be grouped (`-vvc path`).
The first problem found ends reading: an unknown argument (with the most similar option
name as a tip), a missing or invalid value, an option given twice, and at the end a
missing configuration path.  Help and version end reading at once.

Each problem is reported the way the usage text reads: what was wrong, the tip, the usage
line and a pointer to `--help`.  The usage line names the required option and, for an
unknown long option, a value given to a flag or a missing configuration path, the options
used so far (with a suggested option among them); an unknown short option, a stray word and
an option given twice show the full usage line.
-/

namespace ContainerCpi

namespace CommandLine

/-- The program's name. -/
def programName : String := "docker-cpi"

/-- The program's version. -/
def programVersion : String := "0.1.0"

/-- The environment variable naming the configuration file. -/
def configVariable : String := "DOCKER_CPI_CONFIG"

/-- The options, in the order the help lists them. -/
inductive Flag where
  | config | verbose | logFormat | help | version
  deriving DecidableEq, Repr

/-- How an option is written in usage lines and reports. -/
def Flag.usage : Flag → String
  | .config => "--config <CONFIG>"
  | .verbose => "--verbose..."
  | .logFormat => "--log-format <LOG_FORMAT>"
  | .help => "--help"
  | .version => "--version"

/-- Whether an option belongs to the group of the program's own settings (the path, the
verbosity and the format), as opposed to help and version. -/
def Flag.grouped : Flag → Bool
  | .config | .verbose | .logFormat => true
  | .help | .version => false

/-- Whether an option takes a value. -/
def Flag.takesValue : Flag → Bool
  | .config | .logFormat => true
  | .verbose | .help | .version => false

/-- The option of a long name. -/
def Flag.ofLong? : String → Option Flag
  | "config" => some .config
  | "verbose" => some .verbose
  | "log-format" => some .logFormat
  | "help" => some .help
  | "version" => some .version
  | _ => none

/-- The option of a short name. -/
def Flag.ofShort? : Char → Option Flag
  | 'c' => some .config
  | 'v' => some .verbose
  | 'h' => some .help
  | 'V' => some .version
  | _ => none

/-- What a run is asked to do. -/
structure Options where
  config : String
  verbose : Nat
  logFormat : Option LogFormat
  deriving DecidableEq, Repr

/-- What a command line asks for. -/
inductive Action where
  | run (options : Options)
  /-- Print help, the long form or the summary. -/
  | help (long : Bool)
  | version
  deriving DecidableEq, Repr

/-- A command line that cannot be used.  The options listed with a problem are those its
usage line names beside the required one; with none listed the line shows every option. -/
inductive UsageError where
  /-- An argument that is no option, with the option probably meant. -/
  | unexpected (arg : String) (suggestion : Option String) (shown : List Flag)
  | valueMissing (flag : Flag)
  | invalidFormat (value : String)
  | repeated (flag : Flag)
  /-- A value given to an option that takes none; `groupUsed` tells whether an option of the
  settings group has been acted on before. -/
  | unexpectedValue (value : String) (flag : Flag) (groupUsed : Bool)
  | configMissing (shown : List Flag)
  deriving DecidableEq, Repr

/-- The names of the log formats. -/
def formatNames : List String := LogFormat.all.map LogFormat.name

/-- The usage line: the required option and then the options shown, or all options when
none is shown. -/
def usageLine (shown : List Flag) : String :=
  if shown.isEmpty then s!"Usage: {programName} [OPTIONS] --config <CONFIG>"
  else
    let named := (Flag.config :: shown).foldl (fun acc f => if acc.contains f then acc else acc ++ [f]) []
    s!"Usage: {programName} " ++ " ".intercalate (named.map Flag.usage)

/-- The settings group as one usage item: any of its options. -/
def groupUsage : String := "<--config <CONFIG>|--verbose...|--log-format <LOG_FORMAT>>"

/-- The usage line of a value given to a flag: once a setting has been used, the settings
group stands for all of them, after the flag unless the flag is in the group; before, the
required option and the flag. -/
def flagValueUsage (flag : Flag) (groupUsed : Bool) : String :=
  if groupUsed then
    s!"Usage: {programName} " ++ (if flag.grouped then "" else flag.usage ++ " ") ++ groupUsage
  else usageLine [flag]

/-- The closing pointer to the help. -/
def moreHelp : String := "For more information, try '--help'.\n"

/-- The possible values of the log format, as a note. -/
def formatNote : String := "  [possible values: " ++ ", ".intercalate formatNames ++ "]\n"

/-- The report of a usage problem. -/
def UsageError.message : UsageError → String
  | .unexpected arg suggestion shown =>
    let tip := match suggestion with
      | some s => s!"  tip: a similar argument exists: '{s}'\n\n"
      | none => ""
    s!"error: unexpected argument '{arg}' found\n\n" ++ tip ++ usageLine shown ++ "\n\n" ++ moreHelp
  | .valueMissing flag =>
    let note := if flag == .logFormat then formatNote else ""
    let named := flag.usage
    s!"error: a value is required for '{named}' but none was supplied\n" ++ note ++ "\n" ++ moreHelp
  | .invalidFormat value =>
    let tip := match Similarity.suggest value formatNames with
      | some s => s!"  tip: a similar value exists: '{s}'\n\n"
      | none => ""
    s!"error: invalid value '{value}' for '--log-format <LOG_FORMAT>'\n" ++ formatNote ++ "\n" ++
      tip ++ moreHelp
  | .repeated flag =>
    let named := flag.usage
    s!"error: the argument '{named}' cannot be used multiple times\n\n" ++ usageLine [] ++ "\n\n" ++
      moreHelp
  | .unexpectedValue value flag groupUsed =>
    let named := flag.usage
    s!"error: unexpected value '{value}' for '{named}' found; no more were expected\n\n" ++
      flagValueUsage flag groupUsed ++ "\n\n" ++ moreHelp
  | .configMissing shown =>
    "error: the following required arguments were not provided:\n  --config <CONFIG>\n\n" ++
      usageLine (shown ++ [.config]) ++ "\n\n" ++ moreHelp

/-- What has been read so far. -/
structure Reading where
  config : Option String
  verbose : Nat
  logFormat : Option LogFormat
  /-- The options acted on, the most recent last. -/
  used : List Flag
  /-- An option whose value was the next argument.  It is acted on only when the next
  option is, or when the arguments end; until then a report does not count it as used. -/
  waiting : Option Flag

namespace Reading

/-- Nothing read yet. -/
def empty : Reading := ⟨none, 0, none, [], none⟩

/-- Note the use of an option: it becomes the latest used. -/
def use (r : Reading) (f : Flag) : Reading := { r with used := r.used.erase f ++ [f] }

/-- Act on the option waiting for its turn, if any. -/
def settle (r : Reading) : Reading :=
  match r.waiting with
  | some f => { r with waiting := none }.use f
  | none => r

/-- Count one more `-v`. -/
def louder (r : Reading) : Reading := { r.settle with verbose := r.verbose + 1 }.use .verbose

/-- Note an option with its value: used at once when the value was attached to it, waiting
for the next option when the value was the next argument. -/
def noteValue (r : Reading) (f : Flag) (separate : Bool) : Reading :=
  if separate then { r with waiting := some f } else r.use f

/-- Take a value for an option that takes one, attached to it or as the next argument.  An
option given before is refused before its new value is looked at. -/
def setValue (r : Reading) (f : Flag) (value : String) (separate : Bool) :
    Except UsageError Reading :=
  match f with
  | .config =>
    if r.config.isSome then .error (.repeated f)
    else if value.isEmpty then .error (.valueMissing f)
    else .ok ({ r with config := some value }.noteValue f separate)
  | .logFormat =>
    if r.logFormat.isSome then .error (.repeated f)
    else
      match LogFormat.all.find? (·.name == value) with
      | some format => .ok ({ r with logFormat := some format }.noteValue f separate)
      | none => .error (if value.isEmpty then .valueMissing f else .invalidFormat value)
  -- flags take no value
  | .verbose | .help | .version => .ok r

end Reading

/-- Whether an argument reads as an option rather than a value. -/
def optionLike (arg : String) : Bool := arg.startsWith "-" && arg != "-"

/-- The long option names, for suggestions. -/
def longNames : List String := ["config", "verbose", "log-format", "help", "version"]

/-- A step of reading: more arguments to read with the reading so far, or an outcome. -/
inductive Step where
  | next (rest : List String) (r : Reading)
  | done (outcome : Except UsageError Action)

/-- The report of an unknown long option: the most similar option name is suggested, and
the usage line shows it with the options used, the waiting one included. -/
def unknownLong (r : Reading) (name : String) : UsageError :=
  let r := r.settle
  let suggestion := Similarity.suggest name longNames
  let shown := match suggestion.bind Flag.ofLong? with
    | some f => if r.used.contains f then r.used else r.used ++ [f]
    | none => r.used
  .unexpected ("--" ++ name) (suggestion.map ("--" ++ ·)) shown

/-- A long option split into its name and the value written after `=`. -/
def splitLong (body : String) : String × Option String :=
  match Text.splitOnce body '=' with
  | some (n, v) => (n, some v)
  | none => (body, none)

/-- The report a long option draws before it is acted on: an unknown name, or a value given
to an option that takes none. -/
def longRefusal (r : Reading) (name : String) (inline : Option String) : Option UsageError :=
  match Flag.ofLong? name, inline with
  | none, _ => some (unknownLong r name)
  | some f, some v =>
    if f.takesValue then none else some (.unexpectedValue v f (r.used.any Flag.grouped))
  | some _, none => none

/-- The report an option-like argument draws before any option in it is acted on: an
unknown long option or a value given to a flag, or an unknown first letter of a short
group. -/
def refusalBeforeUse (r : Reading) (arg : String) : Option UsageError :=
  if arg.startsWith "--" then
    if arg == "--" then none
    else
      let (name, inline) := splitLong (String.ofList (arg.toList.drop 2))
      longRefusal r name inline
  else
    match arg.toList.drop 1 with
    | c :: _ => if (Flag.ofShort? c).isSome then none else some (.unexpected ("-" ++ String.singleton c) none [])
    | [] => none

/-- Take the value of an option from the inline text or else the next argument, once the
option waiting before it has been acted on.  An argument that reads as an option is no
value: the option is left without one, which is reported unless that argument draws its own
report first.  After `--` every argument is a word and no value, so the first word that
follows is refused, and without one the option is left without a value. -/
def takeValue (r : Reading) (f : Flag) (inline : Option String) (rest : List String) : Step :=
  let r := r.settle
  let keep (v : String) (more : List String) (separate : Bool) : Step :=
    match r.setValue f v separate with
    | .ok r => .next more r
    | .error e => .done (.error e)
  match inline with
  | some v => keep v rest false
  | none =>
    match rest with
    | "--" :: a :: _ => .done (.error (.unexpected a none []))
    | v :: more =>
      if optionLike v then .done (.error ((refusalBeforeUse r v).getD (.valueMissing f)))
      else keep v more true
    | [] => .done (.error (.valueMissing f))

/-- Read a long option `--name` or `--name=value`. -/
def readLong (r : Reading) (body : String) (rest : List String) : Step :=
  let (name, inline) := splitLong body
  match longRefusal r name inline, Flag.ofLong? name with
  | some e, _ => .done (.error e)
  | none, some .config => takeValue r .config inline rest
  | none, some .logFormat => takeValue r .logFormat inline rest
  | none, some .verbose => .next rest r.louder
  | none, some .help => .done (.ok (.help true))
  | none, some .version => .done (.ok .version)
  | none, none => .done (.error (unknownLong r name))

/-- Read a group of short options. -/
def readShort (r : Reading) : List Char → List String → Step
  | [], rest => .next rest r
  | 'v' :: more, rest => readShort r.louder more rest
  | 'h' :: _, _ => .done (.ok (.help false))
  | 'V' :: _, _ => .done (.ok .version)
  | 'c' :: more, rest =>
    let inline := match more with
      | [] => none
      | '=' :: v => some (String.ofList v)
      | v => some (String.ofList v)
    takeValue r .config inline rest
  | c :: _, _ => .done (.error (.unexpected ("-" ++ String.singleton c) none []))

/-- Read one argument and what follows it.  A word that is no option, also after `--`, is
refused with the full usage line. -/
def readOne (r : Reading) (arg : String) (rest : List String) : Step :=
  if arg == "--" then
    match rest with
    | [] => .next [] r
    | a :: _ => .done (.error (.unexpected a none []))
  else if arg.startsWith "--" then readLong r (String.ofList (arg.toList.drop 2)) rest
  else if optionLike arg then readShort r (arg.toList.drop 1) rest
  else .done (.error (.unexpected arg none []))

/-- Read arguments left to right, one step per argument at most. -/
def readSteps : Nat → List String → Reading → Step
  | 0, args, r => .next args r
  | _, [], r => .next [] r
  | fuel + 1, arg :: rest, r =>
    match readOne r arg rest with
    | .next more r => readSteps fuel more r
    | outcome => outcome

/-- What a command line asks for, with the configuration path from the environment standing
in for a missing option; an empty one there is a missing value. -/
def parse (args : List String) (fromEnv : Option String) : Except UsageError Action :=
  match readSteps args.length args Reading.empty with
  | .done outcome => outcome
  | .next _ r =>
    match r.config, fromEnv with
    | some path, _ => .ok (.run ⟨path, r.verbose, r.logFormat⟩)
    | none, some path =>
      if path.isEmpty then .error (.valueMissing .config)
      else .ok (.run ⟨path, r.verbose, r.logFormat⟩)
    | none, none => .error (.configMissing r.settle.used)

end CommandLine

end ContainerCpi
