import ContainerCpi.Cli.Command

/-!
# The program

Gathers what one run is given (the arguments, the three environment variables the program
reads, the configuration file and standard input), runs `Command.run`, and writes its two
output streams and exit status.

This program has no transport of its own to an engine: a socket that exists is found, but
a request sent to any endpoint fails as unreachable, so every call that needs the engine
fails with the reasons `Discovery.connect` collects.
-/

open ContainerCpi

namespace ContainerCpi.Program

/-- The environment variables a run reads. -/
def environmentNames : List String := [CommandLine.configVariable, "RUST_LOG", "DOCKER_HOST"]

/-- Why a request to an engine cannot be sent from this program. -/
def noTransport : ClientError := .unreachable "no transport to the engine in this program"

/-- Whether a file or socket exists at a path: opening it fails for another reason than its
absence when it is a socket. -/
def exists? (path : String) : IO Bool := do
  try
    let _ ← IO.FS.Handle.mk path .read
    pure true
  catch e =>
    match e with
    | .noFileOrDirectory .. => pure false
    | _ => pure true

/-- A random version-4 UUID in lower-case hex. -/
def randomUuid : IO String := do
  let mut digits : List Nat := []
  for _ in [0:32] do
    digits := digits ++ [← IO.rand 0 15]
  let hex (n : Nat) : String := String.singleton (Nat.digitChar n)
  let at_ (i : Nat) : String := hex (digits.getD i 0)
  let group (lo hi : Nat) : String := String.join ((List.range (hi - lo)).map fun k => at_ (lo + k))
  let variant := hex (8 + digits.getD 16 0 % 4)
  pure (group 0 8 ++ "-" ++ group 8 12 ++ "-4" ++ group 13 16 ++ "-" ++ variant ++ group 17 20 ++
    "-" ++ group 20 32)

/-- The world of this program. -/
def network : Network IO where
  socketExists := exists?
  send _ _ := pure (.error noTransport)
  sleep d := IO.sleep d.millis.toUInt32
  within _ work := some <$> work
  freshUuid := randomUuid

/-- Read a file, naming the cause of a failure. -/
def readFile (path : String) : IO (Except ReadError String) := do
  try
    pure (.ok (← IO.FS.readFile path))
  catch e =>
    match e with
    | .noFileOrDirectory .. => pure (.error .notFound)
    | .permissionDenied .. => pure (.error .permissionDenied)
    | e => pure (.error (.other (toString e)))

/-- Read standard input to its end. -/
partial def readInput (stream : IO.FS.Stream) (acc : String) : IO String := do
  let line ← stream.getLine
  if line.isEmpty then pure acc else readInput stream (acc ++ line)

end ContainerCpi.Program

/-- Run the program once. -/
def main (args : List String) : IO UInt32 := do
  let mut env : List (String × String) := []
  for name in Program.environmentNames do
    if let some value ← IO.getEnv name then env := env ++ [(name, value)]
  let configFromEnv := env.lookup CommandLine.configVariable
  let contents ← match CommandLine.parse args configFromEnv with
    | .ok (.run options) => do
      let read ← Program.readFile options.config
      pure fun path => if path == options.config then read else .error .notFound
    | _ => pure fun _ => .error .notFound
  let input ← Program.readInput (← IO.getStdin) ""
  let outcome ← Command.run Program.network ⟨args, env, contents, input⟩
  IO.print outcome.stdout
  IO.eprint outcome.stderr
  pure outcome.exitCode.toUInt32
