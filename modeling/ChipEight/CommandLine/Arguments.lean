import ChipEight.CommandLine.ColorText
import ChipEight.CommandLine.Suggestion
import ChipEight.Files.Path
import ChipEight.Signal
import ChipEight.Text.Quoted

/-!
# The arguments of the command

The command takes the name of one program and a handful of options, in any order. An option's value
is the next argument, whatever it looks like, or stands behind an equals sign; after a bare `--`
nothing is an option any more.

Reading goes in two passes. `scan` sorts the arguments into options and the rest, from left to
right, and stops at the first that is no argument of this command. `Settings.ofScan` then gives the
options their meaning, **in the order in which they were first given**, and looks at the rest last:
an option's bad value is reported before a missing program name, and too many names after everything
else. Of an option that is given twice, the last value counts.
-/

namespace ChipEight.CommandLine

/-- The options of the command. -/
inductive Choice where
  | eti660
  | plainJump
  | scale
  | onColor
  | offColor
  | debug
  | dump
  | logLevel
  | help
  deriving DecidableEq, Repr

namespace Choice

/-- How an option is written. -/
def spelling : Choice → String
  | eti660 => "--eti660"
  | plainJump => "--no-hires-quirk"
  | scale => "--scale"
  | onColor => "--on-color"
  | offColor => "--off-color"
  | debug => "--debug"
  | dump => "--dump"
  | logLevel => "--log-level"
  | help => "--help"

/-- The option is followed by a value. -/
def takesValue : Choice → Bool
  | scale => true
  | onColor => true
  | offColor => true
  | dump => true
  | logLevel => true
  | _ => false

def all : List Choice :=
  [eti660, plainJump, scale, onColor, offColor, debug, dump, logLevel, help]

def ofSpelling? (s : String) : Option Choice := all.find? fun o ↦ o.spelling == s

end Choice

/-- What is wrong with a command line. -/
inductive UsageError where
  | noSuchOption (name : String) (suggestions : List String)
  | needsValue (o : Choice)
  | takesNoValue (o : Choice)
  | notAnInteger (o : Choice) (text : String)
  | notALevel (o : Choice) (text : String)
  | missingProgram
  | extraArguments (extra : List String)
  | badColor
  deriving DecidableEq, Repr

namespace UsageError

/-- The name of the one argument that is not an option. -/
def programArgument : String := "ROM_FILENAME"

def message : UsageError → String
  | noSuchOption name [] => s!"No such option {Quoted.quote name}."
  | noSuchOption name [one] =>
    s!"No such option {Quoted.quote name}. Did you mean {Quoted.quote one}?"
  | noSuchOption name several =>
    s!"No such option {Quoted.quote name}. (Did you mean one of: "
      ++ String.intercalate ", " (several.map Quoted.quote) ++ "?)"
  | needsValue o => s!"Option '{o.spelling}' requires an argument."
  | takesNoValue o => s!"Option '{o.spelling}' does not take a value."
  | notAnInteger o text =>
    s!"Invalid value for '{o.spelling}': {Quoted.quote text} is not a valid integer."
  | notALevel o text =>
    let names := Level.all.map fun l ↦ Quoted.quote (l.name.map Char.toLower)
    s!"Invalid value for '{o.spelling}': {Quoted.quote text} is not one of "
      ++ String.intercalate ", " names ++ "."
  | missingProgram => s!"Missing argument '{programArgument}'."
  | extraArguments extra =>
    let noun := if extra.length = 1 then "argument" else "arguments"
    s!"Got unexpected extra {noun} (" ++ String.intercalate " " extra ++ ")"
  | badColor => s!"Invalid value: {Color.complaint}"

end UsageError

/-! ### The first pass -/

/-- The arguments, sorted: the options in the order in which they were given, and the rest. -/
structure Scan where
  options : List (Choice × String) := []
  rest : List String := []
  deriving DecidableEq, Repr

/-- An option and the value behind its equals sign, if there is one. -/
def splitOption (arg : String) : String × Option String :=
  let cs := arg.toList
  let name := cs.takeWhile (· != '=')
  match cs.dropWhile (· != '=') with
  | [] => (arg, none)
  | _ :: value => (String.ofList name, some (String.ofList value))

/-- The error for an option that does not exist. A single dash is read as the beginning of a run of
one-letter options, of which the first is the one that does not exist. -/
def unknownOption (arg name : String) : UsageError :=
  match arg.toList with
  | '-' :: '-' :: _ => .noSuchOption name (Suggestion.suggest name (Choice.all.map Choice.spelling))
  | '-' :: c :: _ => .noSuchOption (String.ofList ['-', c]) []
  | _ => .noSuchOption name []

/-- The argument is meant as an option: a dash and something behind it. -/
def looksLikeOption (arg : String) : Bool :=
  match arg.toList with
  | '-' :: _ :: _ => true
  | _ => false

/-- What was found, behind one more argument that is no option. -/
def Scan.withRest (arg : String) (found : Scan) : Scan := { found with rest := arg :: found.rest }

/-- What was found, behind one more option. -/
def Scan.withOption (o : Choice) (value : String) (found : Scan) : Scan :=
  { found with options := (o, value) :: found.options }

/-- Sorts the arguments, from left to right. -/
def scan : List String → Except UsageError Scan
  | [] => .ok {}
  | arg :: args =>
    if arg = "--" then .ok { rest := args }
    else if !looksLikeOption arg then (scan args).map (.withRest arg)
    else
      let (name, value) := splitOption arg
      match Choice.ofSpelling? name with
      | none => .error (unknownOption arg name)
      | some o =>
        match o.takesValue, value, args with
        -- Behind an equals sign even nothing at all is a value.
        | true, some value, args => (scan args).map (.withOption o value)
        | true, none, value :: args => (scan args).map (.withOption o value)
        | true, none, [] => .error (.needsValue o)
        | false, some _, _ => .error (.takesNoValue o)
        | false, none, args => (scan args).map (.withOption o "")

/-! ### The second pass -/

/-- What the command was asked to do. -/
structure Settings where
  program : Path
  platform : Platform := .standard
  hiresSwitch : Bool := true
  /-- How many of the window's pixels a pixel of the screen takes, each way. -/
  scale : Int := 10
  onColor : String := "FFFFFF"
  offColor : String := "000000"
  debug : Bool := false
  /-- Where the state is dumped at the end. -/
  dump : Option Path := none
  level : Level := .info
  deriving DecidableEq, Repr

/-- A level by its name in either case. -/
def level? (s : String) : Option Level := Level.ofName? (s.map Char.toUpper)

/-- The value that counts for an option. -/
def Scan.value? (found : Scan) (o : Choice) : Option String :=
  (found.options.reverse.find? fun given ↦ given.1 == o).map (·.2)

/-- The option was given. -/
def Scan.has (found : Scan) (o : Choice) : Bool := (found.value? o).isSome

/-- The options, each once, in the order in which they were first given. -/
def Scan.given (found : Scan) : List Choice := (found.options.map (·.1)).eraseDups

/-- What is wrong with the value of an option. -/
def Scan.check (found : Scan) (o : Choice) : Except UsageError Unit :=
  match o, found.value? o with
  | .scale, some text =>
    if (Numeral.decimal? text).isSome then .ok () else .error (.notAnInteger o text)
  | .logLevel, some text => if (level? text).isSome then .ok () else .error (.notALevel o text)
  | _, _ => .ok ()

/-- Gives the options their meaning. -/
def Settings.ofScan (found : Scan) : Except UsageError Settings := do
  found.given.forM found.check
  match found.rest with
  | [] => throw .missingProgram
  | program :: extra =>
    if extra ≠ [] then throw (.extraArguments extra)
    let defaults : Settings := { program := Path.ofString program }
    return { defaults with
      platform := if found.has .eti660 then .eti660 else .standard
      hiresSwitch := !found.has .plainJump
      scale := ((found.value? .scale).bind Numeral.decimal?).getD defaults.scale
      onColor := (found.value? .onColor).getD defaults.onColor
      offColor := (found.value? .offColor).getD defaults.offColor
      debug := found.has .debug
      dump := (found.value? .dump).map Path.ofString
      level := ((found.value? .logLevel).bind level?).getD defaults.level }

/-- What a command line asks for. -/
inductive Request where
  | help
  | run (settings : Settings)
  deriving DecidableEq, Repr

/-- Reads a command line. A request for help goes before everything but a mistake of the first pass.
-/
def Request.ofArguments (args : List String) : Except UsageError Request := do
  let found ← scan args
  if found.has .help then return .help
  return .run (← Settings.ofScan found)

end ChipEight.CommandLine
