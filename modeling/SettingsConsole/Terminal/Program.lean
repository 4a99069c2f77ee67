import SettingsConsole.Config.Resolve
import SettingsConsole.Remote.Endpoint
import SettingsConsole.Terminal.Arguments
import SettingsConsole.Terminal.Console

/-!
# The program

The program reads its arguments and its configuration, carries out one command and ends. Results go
to standard output, questions and errors to standard error. There is no report of a program that
breaks off because a text cannot be laid out.
-/

namespace SettingsConsole

/-- What the program needs around it. -/
structure Host (m : Type → Type) where
  environment : Config.Environment
  files : Files
  /-- Ask a web server for an address. -/
  send : String → m Response
  /-- Show a question and read the answer, if it can be read. -/
  ask : String → m (Option String)

/-- How the program ended. -/
structure Report where
  /-- The exit code: zero for success, one for failure, two for wrong arguments. -/
  exit : UInt8
  output : String
  /-- What is left to be written to standard error. -/
  errors : String
  deriving DecidableEq, Repr

namespace Program

/-- The name and the version of the program. -/
def version : String := "cosmic-settings 0.1.0"

/-- How to use the program. -/
def usage : String :=
  "Global settings console\n\n" ++
    "Usage: cosmic-settings [OPTIONS] <COMMAND>\n\n" ++
    "Commands:\n" ++
    "  sections  Show the panels of the global settings section\n" ++
    "  list      List one page of a panel\n" ++
    "  show      Show the detail view of one row\n" ++
    "  edit      Edit a row, e.g. `edit global expunge.delay value=3600`\n" ++
    "  add       Add a row, e.g. `add ldap hostname=ldap.example.com port=389`\n" ++
    "  remove    Remove a row\n" ++
    "  help      Print this message or the help of the given subcommand(s)\n\n" ++
    "Options:\n" ++
    "      --config <CONFIG>            Config file " ++
    "(default: <config_dir>/cosmic-settings/config.toml)\n" ++
    "      --endpoint <ENDPOINT>        Management API endpoint\n" ++
    "      --session-key <SESSION_KEY>  Session key sent with every request\n" ++
    "      --page-size <PAGE_SIZE>      Rows per page\n" ++
    "      --language <LANGUAGE>        Display language\n" ++
    "  -h, --help                       Print help\n" ++
    "  -V, --version                    Print version\n"

/-- The end of a program that does not carry out a command. -/
def stopped : Arguments.Stop → Report
  | .help _ => ⟨0, usage, ""⟩
  | .version => ⟨0, version ++ "\n", ""⟩
  | .usage message => ⟨2, "", "error: " ++ message ++ "\n"⟩

/-- The end of a program that failed. -/
def failed (message : String) : Report := ⟨1, "", "Error: " ++ message ++ "\n"⟩

/-- The end of a program that showed something. -/
def succeeded (text : String) : Report := ⟨0, text, ""⟩

/-- The endpoint of a configuration. -/
def endpoint (c : Config) : Except String Endpoint := do
  let address ← c.requiredEndpoint
  (Endpoint.build address c.sessionKey).mapError RemoteError.message

variable {m : Type → Type} [Monad m]

/-- The console of a configuration. -/
def console (h : Host m) (c : Config) (e : Endpoint) : Console m where
  service := Service.new (Registry.standard (e.client h.send)) c.pageSize
  language := Language.choose c.language
  ask := h.ask

/-- Carry out an invocation. -/
def carryOut (h : Host m) (i : Invocation) : m (Option Report) :=
  match Config.resolve h.files h.environment i.configPath i.overrides with
  | .error e => pure (some (failed e.message))
  | .ok c =>
    match endpoint c with
    | .error message => pure (some (failed message))
    | .ok e => do
      match ← ((console h c e).execute i.command).run.run' Console.Progress.start with
      | .ok text => pure (text.map succeeded)
      | .error e => pure (some (failed e.message))

/-- Run the program with its arguments. -/
def run (h : Host m) (args : List String) : m (Option Report) :=
  match Arguments.read args with
  | .error stop => pure (some (stopped stop))
  | .ok i => carryOut h i

end Program

end SettingsConsole
