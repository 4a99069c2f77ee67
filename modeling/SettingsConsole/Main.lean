import SettingsConsole.Terminal.Program

/-!
# The command line

The program at a real terminal. It reads files, the environment and answers; it has no way to reach
a server, so every request counts as one that could not be sent.
-/

open SettingsConsole

/-- Why a file cannot be read, for an input or output error. -/
def fileError : IO.Error → FileError
  | .noFileOrDirectory .. => .notFound
  | .inappropriateType _ code _ => if code = 21 then .isDirectory else .notDirectory
  | .invalidArgument _ code _ => if code = 22 then .nullInName else .nameTooLong
  | e => .other (toString e)

/-- The files that may hold the configuration, as they are now. -/
def readFiles (paths : List String) : IO Files := do
  let contents ← paths.mapM fun (path : String) => do
    let r ← (IO.FS.readFile path).toBaseIO
    pure (path, r.mapError fileError)
  pure fun path => (contents.lookup path).getD (.error .notFound)

/-- The variables that matter, as they are now. -/
def readEnvironment : IO Config.Environment := do
  let names :=
    ["HOME", "XDG_CONFIG_HOME", Config.endpointVariable, Config.sessionKeyVariable,
      Config.pageSizeVariable]
  let values ← names.mapM fun name => do pure (name, ← IO.getEnv name)
  pure fun name => (values.lookup name).getD none

/-- Show a question and read one line. -/
def askUser (question : String) : IO (Option String) := do
  let err ← IO.getStderr
  err.putStr question
  err.flush
  try
    let line ← (← IO.getStdin).getLine
    pure (some line)
  catch _ => pure none

/-- The file that the arguments name. -/
def namedFile (args : List String) : List String :=
  match Arguments.read args with
  | .ok i => i.configPath.toList
  | .error _ => []

/-- Run the program. -/
def main (args : List String) : IO UInt32 := do
  let env ← readEnvironment
  let files ← readFiles (namedFile args ++ (Config.defaultPath? env).toList)
  let host : Host IO :=
    { environment := env
      files := files
      send := fun _ => pure (.unreachable "no connection to the server")
      ask := askUser }
  match ← Program.run host args with
  | some report =>
    (← IO.getStdout).putStr report.output
    (← IO.getStderr).putStr report.errors
    pure report.exit.toUInt32
  | none =>
    (← IO.getStderr).putStr "A column is too wide\n"
    pure 101
