import InstrDecl.Command.Options
import InstrDecl.Storage.FileSystem
import InstrDecl.Text.Literal

namespace InstrDecl.Command

/-- What can be generated. -/
inductive Verb
  | encoders | prototypes | inspect
  deriving DecidableEq, Repr

namespace Verb

/-- The name of a command. -/
def name : Verb → Text
  | encoders => "encoders"
  | prototypes => "prototypes"
  | inspect => "inspect"

/-- The command of the given name. -/
def ofName? (name : Text) : Option Verb :=
  [encoders, prototypes, inspect].find? (·.name == name)

/-- The options of a command. -/
def options : Verb → List Opt
  | encoders => [.output, .assembler, .jobs, .verbose, .help]
  | prototypes => [.output, .verbose, .help]
  | inspect => [.assembler, .jobs, .verbose, .help]

/-- What the command does, as it is called in reports. -/
def activity : Verb → Text
  | encoders | prototypes => "Generation"
  | inspect => "Inspection"

end Verb

/-- The name of the program. -/
def programName : Text := "jitgen"

/-- What the program says of itself. -/
def versionText : Text := "jitgen, version 1.0.0\n"

/-- The part of a command line in which something is wrong: before the command, or after it. -/
abbrev Place := Option Verb

namespace Place

/-- How the program is called up to this place. -/
def program : Place → Text
  | none => programName
  | some verb => programName ++ " " ++ verb.name

/-- What may follow at this place. -/
def usage (place : Place) : Text :=
  "Usage: " ++ place.program ++
    match place with
    | none => " [OPTIONS] COMMAND [ARGS]...\n"
    | some _ => " [OPTIONS] [INSTRUCTION_LIST]\n"

end Place

/-- The instruction list as it is called in messages. -/
def listLabel : Text := "'[INSTRUCTION_LIST]'"

/-- What is wrong with a command line. -/
inductive UsageFault
  | option (fault : OptionFault)
  | missingCommand
  | noSuchCommand (name : Text)
  | extraArguments (arguments : List Text)
  /-- The value of the parameter `label` is a directory. -/
  | directory (label value : Text)
  /-- The value of the parameter `label` is a file that may not be read. -/
  | unreadable (label value : Text)
  | notInteger (label value : Text)
  | outOfRange (label : Text) (value : Int)
  deriving DecidableEq, Repr

namespace UsageFault

/-- The wording of a value that cannot be used. -/
def invalidValue (label reason : Text) : Text :=
  "Invalid value for " ++ label ++ ": " ++ reason

/-- The wording of a fault. -/
def message : UsageFault → Text
  | option (.unknown name) => "No such option " ++ Text.quoted name ++ "."
  | option (.missingValue name) => "Option " ++ Text.quoted name ++ " requires an argument."
  | option (.unexpectedValue name) => "Option " ++ Text.quoted name ++ " does not take a value."
  | missingCommand => "Missing command."
  | noSuchCommand name => "No such command " ++ Text.quoted name ++ "."
  | extraArguments arguments =>
    "Got unexpected extra argument" ++ (if arguments.length = 1 then ([] : Text) else "s") ++ " (" ++
      List.intercalate [' '] arguments ++ ")"
  | directory label value => invalidValue label ("File " ++ Text.quoted value ++ " is a directory.")
  | unreadable label value => invalidValue label ("File " ++ Text.quoted value ++ " is not readable.")
  | notInteger label value => invalidValue label (Text.quoted value ++ " is not a valid integer range.")
  | outOfRange label value => invalidValue label (Text.ofInt value ++ " is not in the range x>=1.")

/-- A fault in the values of options is reported without a reminder of the usage. -/
def showsUsage : UsageFault → Bool
  | option (.missingValue _) | option (.unexpectedValue _) => false
  | _ => true

end UsageFault

/-- A fault of a command line and where it is. -/
structure UsageError where
  place : Place
  fault : UsageFault
  deriving DecidableEq, Repr

/-- The report on a usage error. -/
def UsageError.text (e : UsageError) : Text :=
  let reminder := e.place.usage ++ "Try '" ++ e.place.program ++ " --help' for help.\n\n"
  (if e.fault.showsUsage then reminder else []) ++ "Error: " ++ e.fault.message ++ "\n"

/-- Why a command line cannot be read. -/
inductive LineError
  | usage (e : UsageError)
  /-- The path of a file holds a character that it must not; no report is made of it. -/
  | nulInPath
  deriving DecidableEq, Repr

/-- A command with the values of its options. -/
structure Request where
  verb : Verb
  list : Option Path
  output : Option Path
  assembler : Option Text
  jobs : Option Int
  verbose : Bool
  deriving DecidableEq, Repr

/-- What a command line asks for. -/
inductive Demand
  | version
  | help (place : Place)
  | run (request : Request)
  deriving DecidableEq, Repr

/-- The number of jobs that a text gives. -/
def readJobs (value : Text) : Except UsageFault Int :=
  match Text.integer? value with
  | none => .error (.notInteger Opt.jobs.label value)
  | some jobs => if jobs < 1 then .error (.outOfRange Opt.jobs.label jobs) else .ok jobs

/-- The error that a fault after a command is. -/
def Verb.error (verb : Verb) (fault : UsageFault) : LineError :=
  .usage ⟨some verb, fault⟩

/-- A file that is to be read or written must have a possible path. If there is something already, it must
    not be a directory, and there must be a permission to read it, even if it is only to be written. -/
def checkFile (files : FileSystem) (verb : Verb) (label value : Text) : Except LineError Unit :=
  if Path.holdsNul value then .error .nulInPath
  else match files.find? value with
    | none => .ok ()
    | some entry =>
      if entry.isDirectory then .error (verb.error (.directory label value))
      else if (entry.refusal? .read).any (·.number = ErrorCode.permission.number) then
        .error (verb.error (.unreadable label value))
      else .ok ()

/-- Checks the value of one option. -/
def checkOption (files : FileSystem) (verb : Verb) (scan : Scan) (option : Opt) : Except LineError Unit :=
  match option, scan.value? option with
  | .output, some value => checkFile files verb Opt.output.label value
  | .jobs, some value =>
    match readJobs value with
    | .ok _ => .ok ()
    | .error fault => .error (verb.error fault)
  | _, _ => .ok ()

/-- Checks the values of the options in the order of their first use, then the list, and last that
    nothing is left over. -/
def checkScan (files : FileSystem) (verb : Verb) (scan : Scan) : Except LineError Unit := do
  (scan.given.map (·.1)).eraseDups.forM (checkOption files verb scan)
  match scan.arguments with
  | [] => return ()
  | [list] => checkFile files verb listLabel list
  | list :: extra =>
    checkFile files verb listLabel list
    throw (verb.error (.extraArguments extra))

/-- The request that checked options amount to. -/
def Request.ofScan (verb : Verb) (scan : Scan) : Request :=
  { verb
    list := scan.arguments.head?.map Path.ofText
    output := (scan.value? .output).map Path.ofText
    assembler := scan.value? .assembler
    jobs := (scan.value? .jobs).bind fun value => (readJobs value).toOption
    verbose := scan.has .verbose }

/-- Reads the arguments of a command. Options are told apart before any value is checked. -/
def readCommand (files : FileSystem) (verb : Verb) (arguments : List Text) : Except LineError Demand :=
  match scan verb.options true arguments with
  | .error fault => .error (verb.error (.option fault))
  | .ok scan =>
    if scan.has .help then .ok (.help (some verb))
    else match checkScan files verb scan with
      | .error e => .error e
      | .ok () => .ok (.run (Request.ofScan verb scan))

/-- The options before the command. -/
def globalOptions : List Opt := [.version, .help]

/-- What the options before the command ask for, and what follows them. -/
def readGlobal (arguments : List Text) : Except LineError (Option Demand × List Text) :=
  match scan globalOptions false arguments with
  | .error fault => .error (.usage ⟨none, .option fault⟩)
  | .ok scan =>
    let demand := match scan.given with
      | [] => none
      | (.version, _) :: _ => some .version
      | _ => some (.help none)
    .ok (demand, scan.arguments)

/-- Reads a command line; an empty one asks for help. A command that is not known may still be an
    option that was taken for a command because it stands after two dashes. -/
def readLine (files : FileSystem) (arguments : List Text) : Except LineError Demand :=
  match readGlobal arguments with
  | .error e => .error e
  | .ok (some demand, _) => .ok demand
  | .ok (none, []) => if arguments.isEmpty then .ok (.help none) else .error (.usage ⟨none, .missingCommand⟩)
  | .ok (none, name :: rest) =>
    match Verb.ofName? name with
    | some verb => readCommand files verb rest
    | none =>
      match readGlobal (name :: rest) with
      | .error e => .error e
      | .ok (some demand, _) => .ok demand
      | .ok (none, _) => .error (.usage ⟨none, .noSuchCommand name⟩)

end InstrDecl.Command
