import InstrDecl.Proofs.Declaration.Fields

namespace InstrDecl

namespace Text

/-- What stands before the first space of a text. -/
def firstWord (text : Text) : Text :=
  text.takeWhile (· != ' ')

/-- What stands after the first space of a text. -/
def afterWord (text : Text) : Text :=
  (text.dropWhile (· != ' ')).drop 1

theorem Unbroken.ne_space {word : Text} (hword : word.Unbroken) : ∀ c ∈ word, (c != ' ') = true := by
  intro c hc
  rw [bne_iff_ne]
  rintro rfl
  exact absurd hc (hword.not_mem rfl)

theorem firstWord_append {word : Text} (hword : word.Unbroken) (rest : Text) :
    firstWord (word ++ ' ' :: rest) = word := by
  rw [firstWord, List.takeWhile_append_of_pos hword.ne_space, List.takeWhile_cons_of_neg (by decide),
    List.append_nil]

theorem afterWord_append {word : Text} (hword : word.Unbroken) (rest : Text) :
    afterWord (word ++ ' ' :: rest) = rest := by
  rw [afterWord, List.dropWhile_append_of_pos hword.ne_space, List.dropWhile_cons_of_neg (by decide)]
  rfl

end Text

namespace Declaration

/-- What an encoder says, its opcode apart. -/
structure EncoderReading where
  isBranch : Bool
  name : Text
  type? : Option Text
  deriving DecidableEq, Repr

/-- Reads an encoder. The word before the bracket tells a branch; the name is the first word after
    the bracket, without its comma, and the next word is a type unless it opens the opcode. -/
def readEncoder (declaration : Text) : EncoderReading :=
  let fields := (declaration.dropWhile (· != '(')).drop 1
  let rest := Text.afterWord fields
  { isBranch := declaration.takeWhile (· != '(') == "instr_branch!"
    name := (Text.firstWord fields).dropLast
    type? := if rest.head? = some '[' then none else some (Text.firstWord rest).dropLast }

/-- What a prototype says. -/
structure PrototypeReading where
  name : Text
  type? : Option Text
  deriving DecidableEq, Repr

/-- Reads a prototype. The name is the second word without the opening of the parameters; a comma
    after the receiver announces a parameter, whose type stands before the closing bracket. -/
def readPrototype (declaration : Text) : PrototypeReading :=
  let signature := Text.afterWord declaration
  let opening := Text.firstWord signature
  let parameters := Text.afterWord signature
  { name := opening.take (opening.length - ("(&mut" : Text).length)
    type? := if Text.firstWord parameters = ("self," : Text) then
        some ((Text.afterWord (Text.afterWord parameters)).takeWhile (· != ')'))
      else none }

/-- The bytes begin with a bracket and no type does, so a reader knows whether there is a type. -/
theorem head?_fields_eq_bracket_iff (operand : Option OperandKind) (opcode : Bytes) :
    (typeField operand ++ (byteArray opcode ++ ");")).head? = some '[' ↔ operand = none := by
  cases operand with
  | none => exact ⟨fun _ => rfl, fun _ => rfl⟩
  | some kind =>
    obtain ⟨c, rest, htype, hc⟩ : ∃ c rest, kind.typeName = c :: rest ∧ c ≠ '[' := by
      cases kind <;> exact ⟨_, _, rfl, by decide⟩
    rw [typeField, htype]
    exact ⟨fun hhead => absurd (Option.some.inj hhead) hc, fun hnone => absurd hnone (Option.some_ne_none kind)⟩

/-- The type is what stands before the comma. -/
theorem firstWord_typeField (kind : OperandKind) (rest : Text) :
    (Text.firstWord (typeField (some kind) ++ rest)).dropLast = kind.typeName := by
  have htype : Text.Unbroken (kind.typeName ++ [',']) := by cases kind <;> decide
  have hfield : typeField (some kind) ++ rest = (kind.typeName ++ [',']) ++ ' ' :: rest := by
    have hcomma : (", " : Text) = [','] ++ [' '] := rfl
    simp only [typeField, hcomma, List.append_assoc, List.cons_append, List.nil_append]
  rw [hfield, Text.firstWord_append htype, List.dropLast_concat]

/-- An encoder of a name without blanks says what it was made of. -/
theorem readEncoder_encoder {signature : Signature} (hname : Text.Unbroken signature.identifier)
    (opcode : Bytes) :
    readEncoder (encoder signature opcode) =
      { isBranch := signature.isBranch
        name := signature.identifier
        type? := signature.encodedOperand.map (·.typeName) } := by
  have hword : Text.Unbroken (signature.identifier ++ [',']) := hname.append (by decide)
  have hhead : ∀ (isBranch : Bool) (rest : Text),
      (encoderHead isBranch ++ rest).takeWhile (· != '(') = (if isBranch then "instr_branch!" else "instr!" : Text) ∧
        ((encoderHead isBranch ++ rest).dropWhile (· != '(')).drop 1 = rest := by
    intro isBranch rest
    cases isBranch <;> exact ⟨rfl, rfl⟩
  rw [encoder_eq_fields, readEncoder, List.append_assoc, List.append_assoc, ← List.append_assoc signature.identifier]
  rw [(hhead _ _).1, (hhead _ _).2, Text.firstWord_append hword, Text.afterWord_append hword, List.dropLast_concat]
  congr 1
  · cases signature.isBranch <;> rfl
  · cases hoperand : signature.encodedOperand with
    | none => rw [if_pos ((head?_fields_eq_bracket_iff none opcode).mpr rfl), Option.map_none]
    | some kind =>
      rw [if_neg (mt (head?_fields_eq_bracket_iff _ _).mp (Option.some_ne_none kind)), firstWord_typeField,
        Option.map_some]

/-- A prototype of a name without blanks says what it was made of. -/
theorem readPrototype_prototype {signature : Signature} (hname : Text.Unbroken signature.identifier) :
    readPrototype (prototype signature) =
      { name := signature.identifier, type? := signature.operand.map (·.typeName) } := by
  have hword : Text.Unbroken (signature.identifier ++ "(&mut") := hname.append (by decide)
  have hstart : ∀ rest, Text.afterWord ("fn " ++ rest) = rest := fun _ => rfl
  rw [prototype_eq_fields, readPrototype]
  rw [hstart, Text.firstWord_append hword, Text.afterWord_append hword, List.length_append, Nat.add_sub_cancel,
    List.take_left]
  congr 1
  cases signature.operand with
  | none => rfl
  | some kind => cases kind <;> rfl

end Declaration

end InstrDecl
