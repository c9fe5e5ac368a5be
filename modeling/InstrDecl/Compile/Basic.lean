import InstrDecl.Compile.Pool
import InstrDecl.Encoding.Extraction
import InstrDecl.Instruction

namespace InstrDecl

/-- An instruction with its opcode bytes. -/
structure CompiledInstruction extends Instruction where
  opcode : Bytes
  deriving DecidableEq, Repr

/-- Why a list could not be compiled. -/
inductive CompileError
  | template (e : TemplateError)
  | encoding (e : EncodingError)
  deriving DecidableEq, Repr

namespace Compile

variable {σ : Type}

/-- Compiles one instruction. -/
def one (assembler : Assembler σ) (sentinel : Int) (instruction : Instruction) (session : Session σ) :
    Except EncodingError CompiledInstruction × Session σ :=
  let (result, session) := instruction.template.extract assembler sentinel session
  (result.map fun opcode => { instruction with opcode }, session)

/-- Compiles instructions one after the other, up to the first that fails. -/
def inOrder (assembler : Assembler σ) (sentinel : Int) :
    List Instruction → Session σ → Except EncodingError (List CompiledInstruction) × Session σ
  | [], session => (.ok [], session)
  | instruction :: rest, session =>
    match one assembler sentinel instruction session with
    | (.error e, session) => (.error e, session)
    | (.ok compiled, session) =>
      let (result, session) := inOrder assembler sentinel rest session
      (result.map (compiled :: ·), session)

/-- What a run over the instructions of a list comes to for the whole list. -/
def conclude : Except EncodingError (List CompiledInstruction) × Session σ →
    Except CompileError (List CompiledInstruction) × Session σ
  | (.error e, session) => (.error (.encoding e), session)
  | (.ok compiled, session) => (.ok compiled, session.note [.compiled compiled.length])

/-- Compiles the instructions of a list of templates, with at most `jobs` at a time. All templates are read
    before the first is assembled, and either every instruction is compiled or none. -/
def templates (assembler : Assembler σ) (jobs sentinel : Int) (sources : List Text) (session : Session σ) :
    Except CompileError (List CompiledInstruction) × Session σ :=
  match Instruction.deriveAll sources with
  | .error e => (.error (.template e), session)
  | .ok instructions =>
    let session := session.note [.derived instructions.length]
    if jobs ≤ 1 || instructions.length ≤ 1 then conclude (inOrder assembler sentinel instructions session)
    else conclude (Pool.run jobs.toNat (one assembler sentinel) instructions session)

end Compile

end InstrDecl
