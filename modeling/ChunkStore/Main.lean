import ChunkStore.Cli.Commands
import ChunkStore.Cli.Settings
import Std.Time
/-!
# The `relaydrive` command

Reads the arguments, the environment, the wall clock and the files a command needs, runs the
command, then writes its files and output. Help and version texts exit with status 0, usage
errors with status 2, failures with status 1 after printing `Error: ` and the failure's report.
-/

namespace ChunkStore.Cli

/-- The variables the settings may read. -/
def settingNames : List String :=
  ["TOKENS", "CHANNELS", "CHUNK_SIZE", "ASYNC_WRITE", "UPLOAD_CONCURRENCY",
    "REQUEST_TIMEOUT_SECS", "BASE_URL", "USER_AGENT", "CONFIG"].map (envPrefix ++ ·)

/-- The contents of a file, or none when it cannot be read. -/
def readIfPresent (path : String) : IO (Option ByteArray) := do
  try pure (some (← IO.FS.readBinFile path)) catch _ => pure none

/-- Print a failure's report and give the failing status. -/
def fail (chain : List String) : IO UInt32 := do
  IO.eprintln ("Error: " ++ report chain)
  pure 1

/-- Run an invocation. -/
def execute (inv : Invocation) : IO UInt32 := do
  let mut env := []
  for name in settingNames do
    if let some value ← IO.getEnv name then env := env ++ [(name, value)]
  let configText := (← readIfPresent inv.config).map Text.decodeLossy
  match loadSettings inv.config configText env with
  | .error e => fail [e.context, e.cause]
  | .ok config =>
    let context := "failed to initialize storage driver"
    match openRest config >>= Store.withTransport () with
    | .error e => fail (storageChain context e)
    | .ok store =>
      let mut files := []
      for path in inv.command.reads do
        if let some bytes ← readIfPresent path then files := files ++ [(path, bytes)]
      let now ← Std.Time.Timestamp.now
      let seconds : Int := now.toSecondsSinceUnixEpoch.val
      let effects := runCommand Json.library offline store files seconds inv.command
      for (path, bytes) in effects.writes do
        IO.FS.writeBinFile path bytes
      let out ← IO.getStdout
      out.write effects.stdout
      out.flush
      match effects.stop with
      | none => pure 0
      | some (.failed chain) => fail chain
      | some (.panicked message) =>
        IO.eprintln ("thread 'main' panicked:\n" ++ message)
        pure 101

end ChunkStore.Cli

/-- The command line's entry point. -/
def main (args : List String) : IO UInt32 := do
  match ChunkStore.Cli.parse (← IO.getEnv "RELAYDRIVE_CONFIG") args none with
  | .display text =>
    IO.print text
    pure 0
  | .usage _ text =>
    IO.eprint text
    pure 2
  | .run inv => ChunkStore.Cli.execute inv
