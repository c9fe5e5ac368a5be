import InstrDecl.Encoding.Extraction
import InstrDecl.Notice
import InstrDecl.Storage.Path
import InstrDecl.Text.Literal
import InstrDecl.Toolchain.Program

namespace InstrDecl

/-- The variables of the environment with their values. -/
abbrev Environment := List (Text × Text)

/-- What a run can be told. -/
structure Settings where
  tool : Tool
  sentinel : Int
  instructionList : Path
  jobs : Int
  indent : Text
  deriving DecidableEq, Repr

namespace Settings

/-- The settings without any advice. -/
def default : Settings :=
  { tool := .default
    sentinel := defaultSentinel
    instructionList := Path.ofText "instructions.list"
    jobs := 1
    indent := "    " }

/-- The value of a variable; an empty one counts as none. -/
def value? (environment : Environment) (name : Text) : Option Text :=
  (environment.lookup name).filter (!·.isEmpty)

/-- The name of the variable that names the assembler. -/
def assemblerVariable : Text := "JITGEN_NASM"

/-- The name of the variable that gives the number of jobs. -/
def jobsVariable : Text := "JITGEN_JOBS"

/-- The number of jobs in the environment, at least one; a text that is no integer is passed over
    with a warning. -/
def environmentJobs (environment : Environment) : Int × List Notice :=
  match value? environment jobsVariable with
  | none => (default.jobs, [])
  | some value =>
    match Text.integer? value with
    | some jobs => (max 1 jobs, [])
    | none => (default.jobs, [.invalidJobs value])

/-- The settings under an environment. -/
def ofEnvironment (environment : Environment) : Settings × List Notice :=
  let (jobs, notices) := environmentJobs environment
  let executable := (value? environment assemblerVariable).getD default.tool.executable
  ({ default with tool := { default.tool with executable }, jobs }, notices)

/-- The settings under an environment and the values of the command line, which win over it; an empty name
    of an assembler counts as none. -/
def resolve (environment : Environment) (assembler : Option Text) (jobs : Option Int) :
    Settings × List Notice :=
  let (settings, notices) := ofEnvironment environment
  let executable := (assembler.filter (!·.isEmpty)).getD settings.tool.executable
  ({ settings with tool := { settings.tool with executable }, jobs := jobs.getD settings.jobs }, notices)

end Settings

end InstrDecl
