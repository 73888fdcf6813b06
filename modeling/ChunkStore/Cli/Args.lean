import ChunkStore.Decimal.Parse
/-!
# Command-line arguments

The command line is `relaydrive [--config <CONFIG>] <COMMAND>` with three commands:
`put <FILE> --manifest <MANIFEST> [--name <NAME>]` uploads a file and writes its manifest,
`get <MANIFEST> [--offset <OFFSET>] [--output <OUTPUT>]` downloads a file, and
`refresh <MANIFEST>` renews the lapsed signatures of a manifest. The configuration path comes
from `--config`, else the `RELAYDRIVE_CONFIG` variable, else `relaydrive.toml`.

Parsing gives the invocation to run, a text to show (help and version, exit status 0), or a
usage error (exit status 2). Options take their value as the next argument or after `=`.
-/

namespace ChunkStore.Cli

/-- A command to run. -/
inductive Command where
  | put (file manifest : String) (name : Option String)
  | get (manifest : String) (offset : Nat) (output : Option String)
  | refresh (manifest : String)
  deriving Repr, DecidableEq

/-- A parsed command line. -/
structure Invocation where
  config : String
  command : Command
  deriving Repr, DecidableEq

/-- What the arguments ask for. -/
inductive Parsed where
  | run (invocation : Invocation)
  /-- Help or version text, written to standard output. -/
  | display (text : String)
  /-- A usage error, written to standard error with its kind's name. -/
  | usage (kind text : String)
  deriving Repr, DecidableEq

/-- The program's version. -/
def version : String := "0.1.0"

/-- The default configuration path. -/
def defaultConfig : String := "relaydrive.toml"

/-- The main help text. -/
def mainHelp : String :=
  "Store files as chunked chat attachments\n\n" ++
  "Usage: relaydrive [OPTIONS] <COMMAND>\n\n" ++
  "Commands:\n" ++
  "  put      Upload a local file and write its manifest\n" ++
  "  get      Download a file described by a manifest\n" ++
  "  refresh  Re-sign the expired chunks of a manifest\n" ++
  "  help     Print this message or the help of the given subcommand(s)\n\n" ++
  "Options:\n" ++
  "      --config <CONFIG>  Configuration file path [env: RELAYDRIVE_CONFIG=] [default: relaydrive.toml]\n" ++
  "  -h, --help             Print help\n" ++
  "  -V, --version          Print version\n"

/-- The usage line of a command (or of the program, for `none`). -/
def usageLine : Option String → String
  | some "put" => "relaydrive put [OPTIONS] --manifest <MANIFEST> <FILE>"
  | some "get" => "relaydrive get [OPTIONS] <MANIFEST>"
  | some "refresh" => "relaydrive refresh <MANIFEST>"
  | _ => "relaydrive [OPTIONS] <COMMAND>"

/-- The help text of a command. -/
def commandHelp : String → String
  | "put" =>
    "Upload a local file and write its manifest\n\n" ++
    "Usage: " ++ usageLine (some "put") ++ "\n\n" ++
    "Arguments:\n  <FILE>  File to upload\n\n" ++
    "Options:\n" ++
    "      --manifest <MANIFEST>  Where to write the manifest\n" ++
    "      --name <NAME>          Name recorded in the manifest (default: the file name)\n" ++
    "  -h, --help                 Print help\n"
  | "get" =>
    "Download a file described by a manifest\n\n" ++
    "Usage: " ++ usageLine (some "get") ++ "\n\n" ++
    "Arguments:\n  <MANIFEST>  Manifest written by `put`\n\n" ++
    "Options:\n" ++
    "      --offset <OFFSET>  Byte offset to start reading at [default: 0]\n" ++
    "      --output <OUTPUT>  Output file (default: stdout)\n" ++
    "  -h, --help             Print help\n"
  | "refresh" =>
    "Re-sign the expired chunks of a manifest\n\n" ++
    "Usage: " ++ usageLine (some "refresh") ++ "\n\n" ++
    "Arguments:\n  <MANIFEST>  Manifest to update in place\n\n" ++
    "Options:\n  -h, --help  Print help\n"
  | _ => mainHelp

/-- A usage error with the hint that ends every one. -/
def usageError (kind message : String) (command : Option String) (showUsage : Bool := true) :
    Parsed :=
  let usage := if showUsage then "Usage: " ++ usageLine command ++ "\n\n" else ""
  .usage kind ("error: " ++ message ++ "\n\n" ++ usage ++ "For more information, try '--help'.\n")

/-- Options and positional arguments of a command, as read so far. -/
structure Gathered where
  options : List (String × String) := []
  positionals : List String := []
  help : Bool := false

/-- Split a command's arguments into options (`names` take a value) and positionals. -/
def gather (command : String) (names : List String) :
    List String → Gathered → Except Parsed Gathered
  | [], g => .ok g
  | arg :: rest, g =>
    if arg == "-h" || arg == "--help" then gather command names rest { g with help := true }
    else if arg == "--" then .ok { g with positionals := g.positionals ++ rest }
    else if arg.startsWith "--" then
      let body := arg.drop 2
      let name := (body.takeWhile (· != '=')).toString
      let inline := if body.contains '=' then some (body.dropWhile (· != '=')).toString else none
      if names.contains name then
        match inline with
        | some v => gather command names rest { g with options := g.options ++ [(name, (v.drop 1).toString)] }
        | none =>
          match rest with
          | v :: more => gather command names more { g with options := g.options ++ [(name, v)] }
          | [] =>
            .error (usageError "InvalidValue"
              s!"a value is required for '--{name} <{name.toUpper}>' but none was supplied"
              (some command) false)
      else .error (usageError "UnknownArgument" s!"unexpected argument '{arg}' found" (some command))
    else gather command names rest { g with positionals := g.positionals ++ [arg] }
termination_by args => args.length

/-- The last value given for an option. -/
def lastOption (g : Gathered) (name : String) : Option String :=
  g.options.foldl (fun acc (k, v) => if k == name then some v else acc) none

/-- Parse the arguments of one command. -/
def parseCommand (config : String) (command : String) (args : List String) : Parsed :=
  let names := match command with
    | "put" => ["manifest", "name"]
    | "get" => ["offset", "output"]
    | _ => []
  match gather command names args {} with
  | .error p => p
  | .ok g =>
    if g.help then .display (commandHelp command)
    else
      let extra := fun (arg : String) =>
        usageError "UnknownArgument" s!"unexpected argument '{arg}' found" (some command)
      match command, g.positionals with
      | "put", file :: more =>
        match more, lastOption g "manifest" with
        | arg :: _, _ => extra arg
        | [], some manifest => .run ⟨config, .put file manifest (lastOption g "name")⟩
        | [], none =>
          usageError "MissingRequiredArgument"
            "the following required arguments were not provided:\n  --manifest <MANIFEST>" (some command)
      | "put", [] =>
        let missing := match lastOption g "manifest" with
          | some _ => "\n  <FILE>"
          | none => "\n  --manifest <MANIFEST>\n  <FILE>"
        usageError "MissingRequiredArgument"
          ("the following required arguments were not provided:" ++ missing) (some command)
      | "get", manifest :: more =>
        match more with
        | arg :: _ => extra arg
        | [] =>
          match lastOption g "offset" with
          | none => .run ⟨config, .get manifest 0 (lastOption g "output")⟩
          | some text =>
            match Decimal.parseU64 text with
            | .ok n => .run ⟨config, .get manifest n (lastOption g "output")⟩
            | .error e =>
              usageError "ValueValidation"
                s!"invalid value '{text}' for '--offset <OFFSET>': {e.message}" none false
      | "refresh", [manifest] => .run ⟨config, .refresh manifest⟩
      | "refresh", _ :: arg :: _ => extra arg
      | _, _ =>
        usageError "MissingRequiredArgument"
          "the following required arguments were not provided:\n  <MANIFEST>" (some command)

/-- Parse the whole command line (without the program name); `envConfig` is the value of
`RELAYDRIVE_CONFIG`, if set. -/
def parse (envConfig : Option String) : List String → Option String → Parsed
  | [], _ =>
    usageError "MissingSubcommand"
      "'relaydrive' requires a subcommand but one was not provided\n  [subcommands: put, get, refresh, help]"
      none
  | arg :: rest, config =>
    if arg == "-h" || arg == "--help" then .display mainHelp
    else if arg == "-V" || arg == "--version" then .display s!"relaydrive {version}\n"
    else if arg == "--config" then
      match rest with
      | value :: more => parse envConfig more (some value)
      | [] =>
        usageError "InvalidValue"
          "a value is required for '--config <CONFIG>' but none was supplied" none false
    else if arg.startsWith "--config=" then parse envConfig rest (some (arg.drop 9).toString)
    else if arg.startsWith "-" then
      usageError "UnknownArgument" s!"unexpected argument '{arg}' found" none
    else
      let path := config.getD (envConfig.getD defaultConfig)
      match arg with
      | "put" | "get" | "refresh" => parseCommand path arg rest
      | "help" =>
        match rest with
        | [] => .display mainHelp
        | c :: _ => .display (commandHelp c)
      | other => usageError "InvalidSubcommand" s!"unrecognized subcommand '{other}'" none

end ChunkStore.Cli
