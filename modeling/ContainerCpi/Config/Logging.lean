import ContainerCpi.Json.Decode

/-!
# Logging configuration

How much to log (`level`), in which console format, optionally to a rotated file, and with
raw filter directives that take precedence over the level.  Every field has a default, and
the level and format are written in lower case only.

Raising verbosity moves one level per step towards `trace` and stays there.
-/

namespace ContainerCpi

/-- Log levels from most to least verbose. -/
inductive LogLevel where
  | trace | debug | info | warn | error
  deriving DecidableEq, Repr, Inhabited

namespace LogLevel

/-- All levels, most verbose first. -/
def all : List LogLevel := [.trace, .debug, .info, .warn, .error]

/-- The level's name. -/
def name : LogLevel → String
  | .trace => "trace"
  | .debug => "debug"
  | .info => "info"
  | .warn => "warn"
  | .error => "error"

/-- The level's name in capitals, as the logger prints it. -/
def label (l : LogLevel) : String := l.name.toUpper

/-- One step more verbose; `trace` stays `trace`. -/
def moreVerbose : LogLevel → LogLevel
  | .error => .warn
  | .warn => .info
  | .info => .debug
  | .debug => .trace
  | .trace => .trace

/-- `steps` steps more verbose. -/
def raise (l : LogLevel) : Nat → LogLevel
  | 0 => l
  | n + 1 => (l.moreVerbose).raise n

/-- Decoding: a lower-case name. -/
def decoder : Decoder LogLevel := fun d =>
  (Decoder.variant (all.map name) d).map fun n => (all.find? (·.name == n)).getD .info

end LogLevel

/-- Console log formats. -/
inductive LogFormat where
  | pretty | json | compact
  deriving DecidableEq, Repr, Inhabited

namespace LogFormat

/-- All formats. -/
def all : List LogFormat := [.pretty, .json, .compact]

/-- The format's name. -/
def name : LogFormat → String
  | .pretty => "pretty"
  | .json => "json"
  | .compact => "compact"

/-- Decoding: a lower-case name. -/
def decoder : Decoder LogFormat := fun d =>
  (Decoder.variant (all.map name) d).map fun n => (all.find? (·.name == n)).getD .compact

end LogFormat

/-- When a log file is started afresh. -/
inductive Rotation where
  | daily | hourly | never
  deriving DecidableEq, Repr, Inhabited

namespace Rotation

/-- All strategies. -/
def all : List Rotation := [.daily, .hourly, .never]

/-- The strategy's name. -/
def name : Rotation → String
  | .daily => "daily"
  | .hourly => "hourly"
  | .never => "never"

/-- Decoding: a lower-case name. -/
def decoder : Decoder Rotation := fun d =>
  (Decoder.variant (all.map name) d).map fun n => (all.find? (·.name == n)).getD .daily

end Rotation

/-- A rotated log file. -/
structure FileLogging where
  directory : String
  namePrefix : String
  rotation : Rotation
  deriving DecidableEq, Repr, Inhabited

/-- Logging settings. -/
structure LoggingConfig where
  level : LogLevel
  format : LogFormat
  file : Option FileLogging
  /-- Raw filter directives; they take precedence over `level`. -/
  filterDirectives : Option String
  includeTarget : Bool
  deriving DecidableEq, Repr, Inhabited

namespace FileLogging

/-- A path, written as a string. -/
def pathDecoder : Decoder String
  | .atom (.string s) _ => .ok s
  | d => Decoder.invalidType d "path string"

/-- Decoding: the directory is required. -/
def decoder : Decoder FileLogging :=
  Decoder.record "FileLoggingConfig"
    [Decoder.field "directory" pathDecoder, Decoder.field "prefix" Decoder.string,
     Decoder.field "rotation" Rotation.decoder]
    fun f => do
      let directory ← f.req "directory" pathDecoder
      let pre ← f.opt "prefix" Decoder.string "docker-cpi"
      let rotation ← f.opt "rotation" Rotation.decoder .daily
      return ⟨directory, pre, rotation⟩

/-- As written. -/
def toJson (f : FileLogging) : Json :=
  .object [("directory", .string f.directory), ("prefix", .string f.namePrefix),
    ("rotation", .string f.rotation.name)]

end FileLogging

namespace LoggingConfig

/-- Info level, compact format, no file, no directives, targets shown. -/
def default : LoggingConfig := ⟨.info, .compact, none, none, true⟩

/-- Decoding: every field may be absent. -/
def decoder : Decoder LoggingConfig :=
  let file := Decoder.option FileLogging.decoder
  let directives := Decoder.option Decoder.string
  Decoder.record "LoggingConfig"
    [Decoder.field "level" LogLevel.decoder, Decoder.field "format" LogFormat.decoder,
     Decoder.field "file" file, Decoder.field "filter_directives" directives,
     Decoder.field "include_target" Decoder.bool]
    fun f => do
      let level ← f.opt "level" LogLevel.decoder .info
      let format ← f.opt "format" LogFormat.decoder .compact
      let file ← f.opt "file" file none
      let filterDirectives ← f.opt "filter_directives" directives none
      let includeTarget ← f.opt "include_target" Decoder.bool true
      return ⟨level, format, file, filterDirectives, includeTarget⟩

/-- As written. -/
def toJson (c : LoggingConfig) : Json :=
  .object [("level", .string c.level.name), ("format", .string c.format.name),
    ("file", Json.opt FileLogging.toJson c.file),
    ("filter_directives", Json.opt .string c.filterDirectives),
    ("include_target", .bool c.includeTarget)]

end LoggingConfig

end ContainerCpi
