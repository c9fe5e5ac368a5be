import InstrDecl.Notice

namespace InstrDecl

/-- Why the assembler gave no usable encoding. -/
inductive AssemblyFault
  /-- There is no such program. -/
  | notFound (executable : Text)
  /-- The assembler did not accept the instruction. -/
  | rejected (status : Int) (stderr : Text)
  /-- The encoding of `length` bytes has no room for the operand. -/
  | truncated (length : Nat) (kind : OperandKind) (status : Int)
  deriving DecidableEq, Repr

namespace AssemblyFault

/-- The wording of a cause. -/
def message : AssemblyFault → Text
  | notFound executable => "assembler '" ++ executable ++ "' not found - is nasm installed?"
  | rejected status _ => "assembler exited with status " ++ Text.ofInt status
  | truncated length kind _ =>
    "encoding is " ++ Text.ofNat length ++ " bytes, shorter than the " ++ Text.ofNat kind.width ++
      "-byte " ++ kind.name ++ " operand"

/-- The exit status of the assembler, if it ran. -/
def status? : AssemblyFault → Option Int
  | notFound _ => none
  | rejected status _ => some status
  | truncated _ _ status => some status

/-- What the assembler said, if it is to be shown. -/
def stderr : AssemblyFault → Text
  | rejected _ stderr => stderr
  | _ => []

end AssemblyFault

/-- An instruction that the assembler did not encode. -/
structure AssemblyError where
  instruction : Text
  fault : AssemblyFault
  deriving DecidableEq, Repr

/-- Why the opcode bytes of an instruction could not be found. -/
inductive EncodingError
  | assembly (e : AssemblyError)
  /-- The sentinel is no byte. -/
  | sentinelRange
  /-- The system does not start the assembler, or does not give out its output. -/
  | system (e : SystemError)
  /-- The name of the assembler holds a character that it must not. -/
  | nulInCommand
  /-- What the assembler printed is no text. -/
  | undecodable (e : Utf8.DecodeError)
  deriving DecidableEq, Repr

/-- The answer of an assembler that ran. -/
structure Assembly where
  instruction : Text
  status : Int
  output : Bytes
  stderr : Text
  deriving DecidableEq, Repr

/-- The assembler accepted the instruction. -/
def Assembly.isOk (answer : Assembly) : Bool :=
  answer.status == 0

/-- What a call of the assembler brings: its answer or the reason that there is none, and what
    there is to say about the call. -/
structure Reply where
  result : Except EncodingError Assembly
  notices : List Notice

/-- An assembler, seen from outside: a line goes in and an answer comes out. It may keep a state of type `σ`,
    and so answer the same line differently at different times. -/
abbrev Assembler (σ : Type) := Text → σ → Reply × σ

/-- A run of calls to an assembler: its state, the lines it was given, and all notices so far. -/
structure Session (σ : Type) where
  state : σ
  calls : List Text
  notices : List Notice

namespace Session

variable {σ : Type}

/-- A session in which nothing has happened. -/
def new (state : σ) : Session σ :=
  { state, calls := [], notices := [] }

/-- Adds notices. -/
def note (session : Session σ) (notices : List Notice) : Session σ :=
  { session with notices := session.notices ++ notices }

/-- Hands one line to the assembler. -/
def call (session : Session σ) (assembler : Assembler σ) (line : Text) :
    Except EncodingError Assembly × Session σ :=
  let (reply, state) := assembler line session.state
  (reply.result, { state, calls := session.calls ++ [line], notices := session.notices ++ reply.notices })

end Session

end InstrDecl
