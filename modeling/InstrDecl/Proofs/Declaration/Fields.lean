import InstrDecl.Instruction
import InstrDecl.Proofs.Text.Digits
import InstrDecl.Proofs.Text.Unbroken

namespace InstrDecl

/-- The operand whose type the encoder names. -/
def Signature.encodedOperand (signature : Signature) : Option OperandKind :=
  if signature.isBranch then none else signature.operand

namespace Declaration

/-- What an encoder says before the name. -/
def encoderHead (isBranch : Bool) : Text :=
  if isBranch then "instr_branch!(" else "instr!("

/-- What an encoder says between the name and the bytes. -/
def typeField : Option OperandKind → Text
  | none => []
  | some kind => kind.typeName ++ ", "

/-- What a prototype says after the receiver's mode. -/
def parameterField : Option OperandKind → Text
  | none => "self);"
  | some kind => "self, " ++ kind.parameter ++ ": " ++ kind.typeName ++ ");"

/-- The operands that an instruction can have. -/
def operands : List (Option OperandKind) :=
  none :: OperandKind.all.map some

/-- An encoder is cut where a reader cuts it: after the first space comes the type, if there is one, and
    then the bytes. -/
theorem encoder_eq_fields (signature : Signature) (opcode : Bytes) :
    encoder signature opcode =
      (encoderHead signature.isBranch ++ signature.identifier ++ [',']) ++
        ' ' :: (typeField signature.encodedOperand ++ (byteArray opcode ++ ");")) := by
  obtain ⟨identifier, operand, isBranch⟩ := signature
  have hcomma : (", " : Text) = [','] ++ [' '] := rfl
  cases isBranch <;> cases operand <;>
    simp only [encoder, encoderHead, typeField, Signature.encodedOperand, hcomma, Bool.false_eq_true, ↓reduceIte,
      List.append_assoc, List.cons_append, List.nil_append]

/-- A prototype is cut at the space after the receiver's mode. -/
theorem prototype_eq_fields (signature : Signature) :
    prototype signature =
      "fn " ++ ((signature.identifier ++ "(&mut") ++ ' ' :: parameterField signature.operand) := by
  obtain ⟨identifier, operand, isBranch⟩ := signature
  have hnone : ("(&mut self);" : Text) = "(&mut" ++ ' ' :: "self);" := by decide
  have hsome : ("(&mut self, " : Text) = "(&mut" ++ ' ' :: "self, " := by decide
  cases operand with
  | none =>
    dsimp only [prototype, parameterField]
    rw [hnone]
    simp only [List.append_assoc]
  | some kind =>
    dsimp only [prototype, parameterField]
    rw [hsome]
    simp only [List.append_assoc, List.cons_append]

/-- A text that can be looked up among those of all operands tells the operand. -/
theorem eq_of_find?_eq_some {f : Option OperandKind → Text} {operand operand' : Option OperandKind}
    (hfind : ∀ operand, operands.find? (f · == f operand) = some operand) (hsame : f operand = f operand') :
    operand = operand' := by
  have hfound := hfind operand
  rw [hsame, hfind operand'] at hfound
  exact (Option.some.inj hfound).symm

/-- No two kinds of operand have the same type, so an encoder tells the kind. -/
theorem typeField_injective {operand operand' : Option OperandKind}
    (hsame : typeField operand = typeField operand') : operand = operand' := by
  refine eq_of_find?_eq_some ?_ hsame
  rintro (_ | _ | _ | _ | _ | _ | _ | _) <;> decide

theorem parameterField_injective {operand operand' : Option OperandKind}
    (hsame : parameterField operand = parameterField operand') : operand = operand' := by
  refine eq_of_find?_eq_some ?_ hsame
  rintro (_ | _ | _ | _ | _ | _ | _ | _) <;> decide

/-- The head tells whether an encoder is that of a branch, and where the name begins. -/
theorem encoderHead_append_injective {isBranch isBranch' : Bool} {rest rest' : Text}
    (hsame : encoderHead isBranch ++ rest = encoderHead isBranch' ++ rest') :
    isBranch = isBranch' ∧ rest = rest' := by
  -- the heads differ in their sixth character
  have hsixth := congrArg (·[5]?) hsame
  cases isBranch <;> cases isBranch'
  · exact ⟨rfl, List.append_cancel_left hsame⟩
  · exact absurd (Option.some.inj hsixth : '!' = '_') (by decide)
  · exact absurd (Option.some.inj hsixth : '_' = '!') (by decide)
  · exact ⟨rfl, List.append_cancel_left hsame⟩

/-- Every byte is written with two digits, so a text of bytes tells how many they are and which. -/
theorem byteArray_injective {bytes bytes' : Bytes} (hsame : byteArray bytes = byteArray bytes') :
    bytes = bytes' := by
  have hwidth : ∀ bytes : Bytes, ∀ item ∈ bytes.map (fun b => ("0x" : Text) ++ Text.hexByte b), item.length = 4 := by
    intro bytes item hitem
    obtain ⟨b, _, rfl⟩ := List.mem_map.mp hitem
    rw [Text.hexByte_eq_digits]
    rfl
  have hjoin := List.append_cancel_left (List.append_cancel_right hsame)
  have hitems := Text.intercalate_injective_of_length (by decide) (hwidth bytes) (hwidth bytes') hjoin
  refine (List.map_inj_right ?_).mp hitems
  intro b b' hitem
  exact Text.hexByte_injective (List.append_cancel_left hitem)

/-- A text of bytes is made of digits and the marks around them. -/
theorem not_mem_byteArray {c : Char} (hmarks : c ∉ ("[0x, ]" : Text)) (hdigit : ∀ n < 16, Nat.digitChar n ≠ c)
    (bytes : Bytes) : c ∉ byteArray bytes := by
  have hwithin : ∀ marks : Text, marks ⊆ ("[0x, ]" : Text) → c ∉ marks := fun marks hsub hmem => hmarks (hsub hmem)
  intro hmem
  rw [byteArray, List.mem_append, List.mem_append] at hmem
  rcases hmem with (hopen | hitems) | hclose
  · exact hwithin _ (by decide) hopen
  · rcases Text.mem_of_mem_intercalate hitems with hseparator | ⟨item, hitem, hmem⟩
    · exact hwithin _ (by decide) hseparator
    · obtain ⟨b, _, rfl⟩ := List.mem_map.mp hitem
      rcases List.mem_append.mp hmem with hmark | hdigits
      · exact hwithin _ (by decide) hmark
      · exact Text.forall_mem_hexPadded (p := (· ≠ c)) hdigit 2 b.toNat c hdigits rfl
  · exact hwithin _ (by decide) hclose

end Declaration

end InstrDecl
