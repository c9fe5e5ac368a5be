import InstrDecl.Command.Inspection
import InstrDecl.Command.Usage
import InstrDecl.Diagnostic.Basic
import InstrDecl.Settings
import InstrDecl.Stream
import InstrDecl.Toolchain.Workspace

namespace InstrDecl.Command

/-- The lines that notices are shown as. Without further request only the more important ones are
    shown, by their wording alone. -/
def noticeLines (verbose : Bool) (notices : List Notice) : Text :=
  notices.flatMap fun notice =>
    if verbose then notice.labelled ++ ['\n']
    else match notice.level with
      | .debug => []
      | _ => notice.message ++ ['\n']

/-- What a run leaves behind. -/
structure Outcome where
  exitCode : Nat
  stdout : Text
  /-- All notices are shown, with their levels. -/
  verbose : Bool
  notices : List Notice
  /-- What is said of a failure. -/
  report : Text
  /-- A trace of the program's own steps belongs at the end of the messages. -/
  traced : Bool
  workspace : Workspace

/-- The messages of a run: its notices, then the report on a failure. -/
def Outcome.stderr (outcome : Outcome) : Text :=
  noticeLines outcome.verbose outcome.notices ++ outcome.report

/-- Why the program stops without an outcome. -/
inductive Abort
  /-- The path of a file holds a character that it must not. -/
  | nulInPath
  /-- What was asked for beside the commands cannot be printed. -/
  | unprintable (fault : PrintFault)
  deriving DecidableEq, Repr

/-- The description of an abort. -/
def Abort.message : Abort → Text
  | nulInPath => Diagnostic.nulInPath.text
  | unprintable fault => fault.diagnostic.text

/-- Why a command failed. -/
inductive Failure
  | list (e : ListError)
  | compile (e : CompileError)
  | output (e : SystemError)
  | outputPath
  | stdout (fault : PrintFault)
  deriving DecidableEq, Repr

/-- A failed command as it is shown. -/
def Failure.diagnostic : Failure → Diagnostic
  | list e => e.diagnostic
  | compile e => e.diagnostic
  | output e => e.diagnostic
  | outputPath => .nulInPath
  | stdout fault => fault.diagnostic

/-- A way to compile templates with an assembler, a number of jobs and a sentinel. -/
abbrev Compiler := Assembler Workspace → Int → Int → List Text → Session Workspace →
  Except CompileError (List CompiledInstruction) × Session Workspace

/-- What a command makes of compiled instructions, in the parts that are printed one after the other. -/
def Verb.prints (verb : Verb) (indent : Text) (compiled : List CompiledInstruction) : List Text :=
  match verb with
  | .encoders => [Declaration.encoders indent (compiled.map fun i => (i.toSignature, i.opcode))]
  | .prototypes => [Declaration.prototypes indent (compiled.map (·.toSignature))]
  | .inspect => Inspection.prints compiled

/-- What a command generates from templates, part by part. Only prototypes need no assembler. -/
def generate (compiler : Compiler) (verb : Verb) (settings : Settings) (program : Program) (templates : List Text)
    (workspace : Workspace) : Except CompileError (List Text) × List Notice × Workspace :=
  match verb with
  | .prototypes =>
    match Instruction.deriveAll templates with
    | .error e => (.error (.template e), [], workspace)
    | .ok instructions =>
      (.ok [Declaration.prototypes settings.indent (instructions.map (·.toSignature))], [], workspace)
  | .encoders | .inspect =>
    let (result, session) :=
      compiler (settings.tool.assemble program) settings.jobs settings.sentinel templates (.new workspace)
    (result.map (verb.prints settings.indent), session.notices, session.state)

/-- Writes the generated text to a file. -/
def writeOutput (files : FileSystem) (path : Path) (text : Text) : Except Failure FileSystem :=
  if path.hasNul then .error .outputPath
  else match files.write path (Utf8.encode text) with
    | .error code => .error (.output ⟨code, some path.text⟩)
    | .ok files => .ok files

/-- The generated texts go to the file that was asked for, or else to the standard output. Of a standard
    output that does not take them all, what it took is shown. -/
def deliver (stream : Stream) (output : Option Path) (texts : List Text) (workspace : Workspace) :
    Except Failure Workspace × Text :=
  match output with
  | none =>
    match stream.printAll [] texts with
    | (shown, none) => (.ok workspace, shown)
    | (shown, some fault) => (.error (.stdout fault), shown)
  | some path => ((writeOutput workspace.files path texts.flatten).map fun files => { workspace with files }, [])

/-- Where the instruction list of a request is. -/
def Request.path (request : Request) (settings : Settings) : Path :=
  request.list.getD settings.instructionList

/-- Carries out a request: how it ends, what is shown, all notices, and the workspace after it. Nothing is
    written before the whole output is there. -/
def execute (compiler : Compiler) (environment : Environment) (program : Program) (stream : Stream)
    (request : Request) (workspace : Workspace) : Except Failure Unit × Text × List Notice × Workspace :=
  let (settings, advice) := Settings.resolve environment request.assembler request.jobs
  match InstructionList.load workspace.files (request.path settings) with
  | (.error e, notices) => (.error (.list e), [], advice ++ notices, workspace)
  | (.ok templates, loading) =>
    match generate compiler request.verb settings program templates workspace with
    | (.error e, notices, workspace) => (.error (.compile e), [], advice ++ loading ++ notices, workspace)
    | (.ok texts, notices, workspace) =>
      match deliver stream request.output texts workspace with
      | (.error e, shown) => (.error e, shown, advice ++ loading ++ notices, workspace)
      | (.ok workspace, shown) => (.ok (), shown, advice ++ loading ++ notices, workspace)

/-- The outcome of a request. The messages are always taken. -/
def perform (compiler : Compiler) (environment : Environment) (program : Program) (stream : Stream)
    (request : Request) (workspace : Workspace) : Outcome :=
  let (result, stdout, notices, workspace) := execute compiler environment program stream request workspace
  let diagnostic? : Option Diagnostic := match result with
    | .ok () => none
    | .error e => some e.diagnostic
  let report := diagnostic?.toList.flatMap fun diagnostic =>
    (diagnostic.report (some request.verb.activity)).flatMap (· ++ ['\n'])
  { exitCode := diagnostic?.elim 0 (·.exitCode)
    stdout
    verbose := request.verbose
    notices
    report := Text.plain report
    traced := request.verbose && diagnostic?.any (·.isInternal)
    workspace }

/-- An outcome in which nothing happened but that something was said. -/
def Outcome.saying (exitCode : Nat) (stdout report : Text) (workspace : Workspace) : Outcome :=
  { exitCode, stdout, verbose := false, notices := [], report, traced := false, workspace }

/-- Shows a text that was asked for beside the commands. That a reader has gone away is not reported. -/
def showText (stream : Stream) (text : Text) (workspace : Workspace) : Except Abort Outcome :=
  match stream.print [] text with
  | (shown, none) => .ok (.saying 0 shown [] workspace)
  | (shown, some (.system code)) =>
    if code.number = ErrorCode.brokenPipe.number then .ok (.saying 1 shown [] workspace)
    else .error (.unprintable (.system code))
  | (_, some fault) => .error (.unprintable fault)

/-- Runs a command line, with the given way to compile. -/
def runWith (compiler : Compiler) (environment : Environment) (program : Program) (stream : Stream)
    (arguments : List Text) (workspace : Workspace) : Except Abort Outcome :=
  match readLine workspace.files arguments with
  | .error .nulInPath => .error .nulInPath
  | .error (.usage e) => .ok (.saying 2 [] (Text.plain e.text) workspace)
  | .ok .version => showText stream versionText workspace
  | .ok (.help place) => showText stream place.usage workspace
  | .ok (.run request) => .ok (perform compiler environment program stream request workspace)

/-- Runs a command line. -/
def run : Environment → Program → Stream → List Text → Workspace → Except Abort Outcome :=
  runWith Compile.templates

end InstrDecl.Command
