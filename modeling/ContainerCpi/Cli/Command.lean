import ContainerCpi.Cli.Args
import ContainerCpi.Config.Filter
import ContainerCpi.Engine.Discovery
import ContainerCpi.Service.Dispatch

/-!
# One run of the program

The program answers one request per run: it reads its command line, loads and checks its
configuration file, checks its log filter, then reads one request document on standard
input and writes the response as one line of JSON on standard output.

Failures before the request is read end the run with exit status 1 and one line
`Error: <what>: <why>` on standard error: the file could not be read or parsed, the
configuration is invalid, or the log filter cannot be used.  A command line that cannot be
used ends it with status 2 and the usage report; help and version are printed with status
0.  Every request gets a response, failed or not, with status 0.

The engine of a request is found anew for each request (`Discovery.connect`), at the
endpoint its context names or else the configured one.  A filter in the environment
variable `RUST_LOG` that can be used replaces the configured one; `-v` raises the configured
level and drops configured directives.
-/

namespace ContainerCpi

namespace CommandLine

/-- The help text, the summary (`-h`) or the long form (`--help`), showing the value of the
configuration variable.  Every line break in a description is followed by the description's
indent, so a value of several lines stays in the description column. -/
def helpText (long : Bool) (configFromEnv : Option String) : String :=
  let envNote (indent : String) :=
    "[env: " ++ configVariable ++ "=" ++
      ("\n" ++ indent).intercalate ((configFromEnv.getD "").splitOn "\n") ++ "]"
  let formats := "[possible values: " ++ ", ".intercalate formatNames ++ "]"
  let usage := s!"Usage: {programName} [OPTIONS] --config <CONFIG>"
  if long then
    let indent := "          "
    String.join
      ["BOSH CPI backed by a Docker engine.\n\n",
       "Reads one request document on stdin and writes the response on stdout. ",
       "Logs go to stderr.\n\n", usage, "\n\nOptions:\n",
       "  -c, --config <CONFIG>\n", indent, "Path to the CPI configuration file\n", indent, "\n",
       indent, envNote indent, "\n\n",
       "  -v, --verbose...\n", indent, "Raise log verbosity (repeatable)\n\n",
       "      --log-format <LOG_FORMAT>\n", indent, "Override the configured console log format\n",
       indent, "\n", indent, formats, "\n\n",
       "  -h, --help\n", indent, "Print help (see a summary with '-h')\n\n",
       "  -V, --version\n", indent, "Print version\n"]
  else
    String.join
      ["BOSH CPI that runs VMs as Docker containers\n\n", usage, "\n\nOptions:\n",
       "  -c, --config <CONFIG>          Path to the CPI configuration file ",
       envNote "                                 ", "\n",
       "  -v, --verbose...               Raise log verbosity (repeatable)\n",
       "      --log-format <LOG_FORMAT>  Override the configured console log format ", formats, "\n",
       "  -h, --help                     Print help (see more with '--help')\n",
       "  -V, --version                  Print version\n"]

/-- The version text. -/
def versionText : String := programName ++ " " ++ programVersion ++ "\n"

end CommandLine

/-- What one run of the program is given. -/
structure Invocation where
  args : List String
  env : List (String × String)
  /-- The contents of a file, or why it cannot be read. -/
  readFile : String → Except ReadError String
  stdin : String

/-- What one run of the program leaves: its exit status and its two output streams. -/
structure Outcome where
  exitCode : Nat
  stdout : String
  stderr : String
  deriving DecidableEq, Repr

namespace Command

/-- Load, decode and check the configuration file. -/
def loadConfig (inv : Invocation) (path : String) : Except String ServiceConfig :=
  match inv.readFile path with
  | .error e =>
    let why := e.message
    .error s!"Failed to read config file {path}: {why}"
  | .ok text =>
    match Decoder.runText ServiceConfig.decoder text with
    | .error why => .error s!"Failed to parse config file {path}: {why}"
    | .ok config =>
      match config.cpi.validate with
      | .error e =>
        let why := e.message
        .error s!"Invalid configuration: {why}"
      | .ok () => .ok config

/-- The logging settings after the command line: `-v` raises the level and drops the
configured directives, `--log-format` replaces the format. -/
def adjustLogging (o : CommandLine.Options) (c : LoggingConfig) : LoggingConfig :=
  let c := if o.verbose > 0 then { c with level := c.level.raise o.verbose, filterDirectives := none }
    else c
  match o.logFormat with
  | some format => { c with format }
  | none => c

/-- How setting up logging ends. -/
inductive LogSetup where
  | ready
  | refused (report : String)
  /-- The directive reader faults, which ends the program without a word. -/
  | faulted
  deriving DecidableEq, Repr

/-- Check the log filter: a usable `RUST_LOG` wins, else the configured directives, else the
level.  A fault while reading either ends the program. -/
def checkLogging (env : List (String × String)) (c : LoggingConfig) : LogSetup :=
  match (env.lookup "RUST_LOG").map LogFilter.check with
  | some .accepted => .ready
  | some .faulted => .faulted
  | _ =>
    let directives := c.filterDirectives.getD c.level.name
    match LogFilter.check directives with
    | .accepted => .ready
    | .faulted => .faulted
    | .refused e =>
      let why := e.message
      .refused s!"Invalid log filter '{directives}': {why}"

/-- A run that ends before a request is read. -/
def stopped (code : Nat) (stdout stderr : String) : Outcome := ⟨code, stdout, stderr⟩

variable {m : Type → Type} [Monad m]

/-- One run of the program in a world reached through `net`. -/
def run (net : Network m) (inv : Invocation) : m Outcome := do
  let configFromEnv := inv.env.lookup CommandLine.configVariable
  match CommandLine.parse inv.args configFromEnv with
  | .error e => return stopped 2 "" e.message
  | .ok (.help long) => return stopped 0 (CommandLine.helpText long configFromEnv) ""
  | .ok .version => return stopped 0 CommandLine.versionText ""
  | .ok (.run options) =>
    match loadConfig inv options.config with
    | .error why => return stopped 1 "" ("Error: " ++ why ++ "\n")
    | .ok config =>
      match checkLogging inv.env (adjustLogging options config.logging) with
      | .refused why => return stopped 1 "" ("Error: Failed to initialize logging: " ++ why ++ "\n")
      | .faulted => return stopped 101 "" ""
      | .ready =>
        let request := Decoder.runText Request.decoder inv.stdin
        let reach (opts : DockerOpts) := Discovery.connect net opts (inv.env.lookup "DOCKER_HOST")
        let response ← Dispatch.respondVia reach (fun (_, r) => net.engine r) config request
        return ⟨0, response.toJson.render ++ "\n", ""⟩

end Command

end ContainerCpi
