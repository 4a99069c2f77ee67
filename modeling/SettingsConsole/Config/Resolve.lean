import SettingsConsole.Config.Basic
import SettingsConsole.Config.Files

/-!
# Finding the configuration

The file is the one that a flag names, or else the one at the usual place. The file that a flag
names has to be there; the usual one need not.
-/

namespace SettingsConsole.Config

open Text

/-- Why there is no configuration. -/
inductive Failure where
  /-- The file cannot be read. -/
  | unreadable (path : String) (e : FileError)
  /-- The file is no proper document. -/
  | malformed (path : String)
  /-- The page size of the environment is no number. -/
  | badPageSize (b : BadPageSize)
  deriving DecidableEq, Repr

/-- What is wrong, and why. -/
def Failure.message : Failure → String
  | unreadable path e => "Failed to read config file " ++ path ++ ": " ++ e.message
  | malformed path => "Failed to parse config file " ++ path
  | badPageSize b => b.chain

/-- Append a name to a path. -/
def joinPath (base name : String) : String :=
  if base = "" ∨ base.toList.getLast? = some '/' then base ++ name else base ++ "/" ++ name

/-- Whether a path begins at the root. -/
def isAbsolute (path : String) : Bool := path.toList.head? = some '/'

/-- The directory of configurations: the one that is set, or else one in the home directory. -/
def directory? (env : Environment) : Option String :=
  match (env "XDG_CONFIG_HOME").filter isAbsolute with
  | some dir => some dir
  | none => ((env "HOME").filter (· ≠ "")).map fun home => joinPath home ".config"

/-- The usual place of the file. -/
def defaultPath? (env : Environment) : Option String :=
  (directory? env).map fun dir => joinPath (joinPath dir "cosmic-settings") "config.toml"

/-- Read the configuration in a file. -/
def ofFile (files : Files) (path : String) : Except Failure Config :=
  match files path with
  | .error e => .error (.unreadable path e)
  | .ok text =>
    match parse? text with
    | some c => .ok c
    | none => .error (.malformed path)

/-- The configuration of the file layer. -/
def fromFiles (files : Files) (env : Environment) (path : Option String) : Except Failure Config :=
  match path with
  | some path => ofFile files path
  | none =>
    match (defaultPath? env).filter files.exists? with
    | some path => ofFile files path
    | none => .ok default

/-- Apply all layers. -/
def resolve (files : Files) (env : Environment) (path : Option String) (o : Overrides) :
    Except Failure Config := do
  let c ← fromFiles files env path
  match c.applyEnvironment env with
  | (c, none) => pure (c.applyOverrides o).normalize
  | (_, some bad) => throw (.badPageSize bad)

end SettingsConsole.Config
