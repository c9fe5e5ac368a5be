import InstrDecl.Encoding.Assembler
import InstrDecl.Template.Basic

namespace InstrDecl

/-- The byte that is repeated unless another is chosen. -/
def defaultSentinel : Int := 0x11

/-- A hexadecimal number of `width` bytes, all equal to `byte`. It is assembled in place of an operand that is
    left open, so that the bytes of the operand can be found again in the encoding. -/
def sentinelLiteral (width : Nat) (byte : Int) : Text :=
  "0x" ++ (List.replicate width (Text.hexPair byte)).flatten

/-- The line of assembly for a template: the sentinel stands in place of the placeholder. -/
def Template.assemblyText (template : Template) (byte : Int) : Text :=
  match template.operand? with
  | none => template.fill []
  | some kind => template.fill (sentinelLiteral kind.width byte)

/-- The operand's bytes hold the sentinel. -/
def isSentinel (sentinel : Int) (tail : Bytes) : Bool :=
  tail.all fun b => (b.toNat : Int) == sentinel

/-- Reads the opcode bytes off the answer of an assembler that was given the template with
    `sentinel` as its operand. The bytes of a relative operand differ from the sentinel, so only
    the other kinds are compared with it. -/
def Template.opcode (template : Template) (sentinel : Int) (answer : Assembly) :
    Except EncodingError Bytes × List Notice :=
  let instruction := template.assemblyText sentinel
  let encoding := answer.output
  if !answer.isOk then
    (.error (.assembly ⟨instruction, .rejected answer.status answer.stderr⟩), [])
  else match template.operand? with
    | none => (.ok encoding, [.encoded instruction encoding])
    | some kind =>
      if encoding.length < kind.width then
        (.error (.assembly ⟨instruction, .truncated encoding.length kind answer.status⟩), [])
      else
        let opcode := encoding.take (encoding.length - kind.width)
        let tail := encoding.drop (encoding.length - kind.width)
        let extracted := Notice.extracted instruction encoding opcode
        if kind.isRelative then (.ok opcode, [extracted])
        else if sentinel < 0 || 255 < sentinel then (.error .sentinelRange, [])
        else if isSentinel sentinel tail then (.ok opcode, [extracted])
        else (.ok opcode, [.operandNotLast template.source tail kind, extracted])

variable {σ : Type}

/-- Finds the opcode bytes of a template with one call of the assembler. -/
def Template.extract (template : Template) (assembler : Assembler σ) (sentinel : Int)
    (session : Session σ) : Except EncodingError Bytes × Session σ :=
  match session.call assembler (template.assemblyText sentinel) with
  | (.error e, session) => (.error e, session)
  | (.ok answer, session) =>
    let (result, notices) := template.opcode sentinel answer
    (result, session.note notices)

end InstrDecl
