import SettingsConsole.Config.Basic
import SettingsConsole.Terminal.Command

/-!
# Arguments of the program

Options that hold for all commands may stand before the command or after it; after it they win. An
option takes its value from the same argument, after an equals sign, or from the next one, which
may not look like an option then. After two hyphens nothing is an option any more.
-/

namespace SettingsConsole

open Text

/-- What the arguments ask for. -/
structure Invocation where
  /-- The configuration file. -/
  configPath : Option String
  overrides : Config.Overrides
  command : Command
  deriving DecidableEq, Repr

/-- Why nothing is carried out. -/
inductive Arguments.Stop where
  /-- Help was asked for, for all commands or for one. -/
  | help (command : Option String)
  /-- The version was asked for. -/
  | version
  /-- The arguments are wrong. -/
  | usage (message : String)
  deriving DecidableEq, Repr

namespace Arguments

/-- An option with a value. -/
structure Valued where
  name : String
  /-- Whether a value is proper. -/
  accepts : String → Bool

/-- The arguments of the program, or of one command. -/
structure Grammar where
  /-- The command, or nothing for the program. -/
  command : Option String
  valued : List Valued
  flags : List String
  /-- The greatest number of arguments that are no options. -/
  positionals : Option Nat
  /-- The commands that end the arguments of the program. -/
  commands : List String

/-- What has been read. -/
structure Parsed where
  values : List (String × String) := []
  flags : List String := []
  /-- The arguments that are no options. -/
  positionals : List String := []
  /-- The command with what follows it. -/
  rest : Option (String × List String) := none

/-- A number from `low` to `high`. -/
def wordBetween? (low high : Int) (s : String) : Option UInt32 :=
  match Numeral.int64 s with
  | .ok n => if low ≤ n.toInt ∧ n.toInt ≤ high then some (UInt32.ofNat n.toInt.toNat) else none
  | .error _ => none

/-- The number of a page. -/
def pageNumber? : String → Option UInt32 := wordBetween? 1 4294967295

/-- The size of a page. -/
def pageSize? : String → Option UInt32 := wordBetween? 0 4294967295

/-- The options that hold for all commands. -/
def global : List Valued :=
  [⟨"config", fun s => s != ""⟩, ⟨"endpoint", fun _ => true⟩, ⟨"session-key", fun _ => true⟩,
    ⟨"page-size", fun s => (pageSize? s).isSome⟩, ⟨"language", fun _ => true⟩]

/-- The arguments of each command. -/
def commandGrammars : List (String × Grammar) :=
  [("sections", ⟨some "sections", global, [], some 0, []⟩),
    ("list",
      ⟨some "list",
        [⟨"page", fun s => (pageNumber? s).isSome⟩, ⟨"search", fun _ => true⟩] ++ global, [],
        some 1, []⟩),
    ("show", ⟨some "show", global, [], some 2, []⟩),
    ("edit", ⟨some "edit", global, ["yes"], none, []⟩),
    ("add", ⟨some "add", global, ["yes"], none, []⟩),
    ("remove", ⟨some "remove", global, ["yes"], some 2, []⟩)]

/-- The arguments of the program. -/
def programGrammar : Grammar :=
  ⟨none, global, [], some 0, commandGrammars.map (·.1) ++ ["help"]⟩

/-- Whether an argument looks like an option. -/
def looksLikeOption (arg : String) : Bool :=
  match arg.toList with
  | '-' :: _ :: _ => true
  | _ => false

/-- The name and the attached value of a long option. -/
def longOption? (arg : String) : Option (String × Option String) :=
  match arg.toList with
  | '-' :: '-' :: cs =>
    match cutChars '=' cs with
    | some (name, value) => some (String.ofList name, some (String.ofList value))
    | none => some (String.ofList cs, none)
  | _ => none

/-- Record the value of an option, which may be given once. -/
def Parsed.addValue (p : Parsed) (o : Valued) (value : String) : Except Stop Parsed :=
  if (p.values.lookup o.name).isSome then
    .error (.usage ("the option --" ++ o.name ++ " is given twice"))
  else if o.accepts value then .ok { p with values := p.values ++ [(o.name, value)] }
  else .error (.usage ("invalid value '" ++ value ++ "' for --" ++ o.name))

/-- Record a flag, which may be given once. -/
def Parsed.addFlag (p : Parsed) (name : String) : Except Stop Parsed :=
  if p.flags.contains name then .error (.usage ("the option --" ++ name ++ " is given twice"))
  else .ok { p with flags := p.flags ++ [name] }

/-- Record an argument that is no option. -/
def Parsed.addPositional (p : Parsed) (g : Grammar) (arg : String) : Except Stop Parsed :=
  if g.positionals.all (p.positionals.length < ·) then
    .ok { p with positionals := p.positionals ++ [arg] }
  else .error (.usage ("unexpected argument '" ++ arg ++ "'"))

/-- Record arguments that are no options. -/
def addPositionals (g : Grammar) (p : Parsed) (args : List String) : Except Stop Parsed :=
  args.foldlM (fun p arg => p.addPositional g arg) p

/-- Read the letters of a short option. Only the first one counts, as both letters that are known
end the reading. -/
def shortOption (g : Grammar) (arg : String) : Stop :=
  let unexpected := Stop.usage ("unexpected argument '" ++ arg ++ "'")
  match arg.toList with
  | '-' :: 'h' :: _ => .help g.command
  | '-' :: 'V' :: _ => if g.command.isNone then .version else unexpected
  | _ => unexpected

/-- Read a long option that takes no value from the next argument. -/
def simpleOption (g : Grammar) (p : Parsed) (name : String) (attached : Option String) :
    Except Stop Parsed :=
  if attached.isSome then .error (.usage ("unexpected value for --" ++ name))
  else if name = "help" then .error (.help g.command)
  else if name = "version" ∧ g.command.isNone then .error .version
  else if g.flags.contains name then p.addFlag name
  else .error (.usage ("unexpected argument '--" ++ name ++ "'"))

/-- Read arguments, up to a command if there are any. -/
def parse (g : Grammar) (p : Parsed) : List String → Except Stop Parsed
  | [] => .ok p
  | arg :: rest =>
    if g.commands.contains arg then .ok { p with rest := some (arg, rest) }
    else if arg = "--" then addPositionals g p rest
    else
      match longOption? arg with
      | some (name, attached) =>
        match g.valued.find? (·.name = name) with
        | some o =>
          match attached with
          | some value => do
            let p ← p.addValue o value
            parse g p rest
          | none =>
            match rest with
            | [] => .error (.usage ("a value is required for --" ++ name))
            | value :: rest =>
              if looksLikeOption value then .error (.usage ("a value is required for --" ++ name))
              else do
                let p ← p.addValue o value
                parse g p rest
        | none => do
          let p ← simpleOption g p name attached
          parse g p rest
      | none =>
        if looksLikeOption arg then .error (shortOption g arg)
        else do
          let p ← p.addPositional g arg
          parse g p rest

/-- The command that its arguments stand for. -/
def command (name : String) (p : Parsed) : Except Stop Command :=
  let yes := p.flags.contains "yes"
  match name, p.positionals with
  | "sections", [] => .ok .sections
  | "list", [panel] =>
    let page := ((p.values.lookup "page").bind pageNumber?).getD 1
    .ok (.list panel page (p.values.lookup "search"))
  | "show", [panel, id] => .ok (.detail panel id)
  | "edit", panel :: id :: values => .ok (.edit panel id values yes)
  | "add", panel :: values => .ok (.add panel values yes)
  | "remove", [panel, id] => .ok (.remove panel id yes)
  | _, _ => .error (.usage "required arguments are missing")

/-- Read what help is asked for. -/
def helpCommand : List String → Stop
  | [] => .help none
  | [name] =>
    if programGrammar.commands.contains name then .help (some name)
    else .usage ("unrecognized subcommand '" ++ name ++ "'")
  | name :: _ => .usage ("unexpected argument after '" ++ name ++ "'")

/-- Read the arguments of the program. -/
def read (args : List String) : Except Stop Invocation := do
  let outer ← parse programGrammar {} args
  match outer.rest with
  | none => throw (.usage "a command is required")
  | some (name, rest) =>
    match commandGrammars.lookup name with
    | none => throw (helpCommand rest)
    | some g => do
      let inner ← parse g {} rest
      let c ← command name inner
      let value (name : String) := (inner.values.lookup name).or (outer.values.lookup name)
      pure
        ⟨value "config",
          { endpoint := value "endpoint"
            sessionKey := value "session-key"
            pageSize := (value "page-size").bind pageSize?
            language := value "language" },
          c⟩

end Arguments

end SettingsConsole
