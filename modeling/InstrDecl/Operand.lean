import InstrDecl.Text.Basic

namespace InstrDecl

/-- A kind of operand. -/
inductive OperandKind
  | i8 | u8 | i32 | u32 | u64 | label | addr
  deriving DecidableEq, Repr

/-- How the assembler encodes an operand. -/
inductive OperandCategory
  /-- The number itself. -/
  | integer
  /-- The distance from the end of the instruction. -/
  | relativeLabel
  /-- The address itself. -/
  | absoluteAddress
  deriving DecidableEq, Repr

/-- The wording of a category. -/
def OperandCategory.text : OperandCategory → Text
  | .integer => "integer"
  | .relativeLabel => "relative label"
  | .absoluteAddress => "absolute address"

namespace OperandKind

/-- All kinds, in the order in which messages list them. -/
def all : List OperandKind :=
  [i8, u8, i32, u32, u64, label, addr]

/-- The name of a kind, as written in a placeholder. -/
def name : OperandKind → Text
  | i8 => "i8"
  | u8 => "u8"
  | i32 => "i32"
  | u32 => "u32"
  | u64 => "u64"
  | label => "label"
  | addr => "addr"

/-- The kind of the given name. -/
def ofName? (name : Text) : Option OperandKind :=
  all.find? (·.name == name)

/-- A kind is found by its name. -/
theorem ofName?_name (kind : OperandKind) : ofName? kind.name = some kind := by
  cases kind <;> rfl

/-- The number of bytes that the operand takes in an encoding. -/
def width : OperandKind → Nat
  | i8 | u8 => 1
  | i32 | u32 | label => 4
  | u64 | addr => 8

/-- How the operand is encoded. -/
def category : OperandKind → OperandCategory
  | label => .relativeLabel
  | addr => .absoluteAddress
  | _ => .integer

/-- The type of the operand in a declaration. -/
def typeName : OperandKind → Text
  | label => "Self::Label"
  | addr => "Self::Address"
  | kind => kind.name

/-- The encoded bytes of a relative operand depend on the place of the instruction. -/
def isRelative (kind : OperandKind) : Bool :=
  kind.category = .relativeLabel

/-- The name of the operand's parameter in a prototype. -/
def parameter : OperandKind → Text
  | label => "label"
  | addr => "addr"
  | _ => "operand"

end OperandKind

end InstrDecl
