import InstrDecl.Proofs.Compile.Declarations
import InstrDecl.Proofs.Declaration.Reading

namespace InstrDecl.Compile

variable {σ : Type} {assembler : Assembler σ} {jobs sentinel : Int} {sources : List Text}
variable {session after : Session σ} {order : List Nat} {compiled : List CompiledInstruction}

/-- A list that can be compiled can be read, and to the same instructions. -/
theorem Yields.deriveAll_eq_ok
    (hyields : Yields assembler jobs sentinel sources session order (.ok compiled, after)) :
    Instruction.deriveAll sources = .ok (compiled.map (·.toInstruction)) :=
  mapM_eq_ok_iff.mpr (List.forall₂_map_right_iff.mpr hyields.derived)

/-- Whatever the assembler answers and however its calls are scheduled, a list that is compiled can
    also be read without it, and the prototypes of both are the same text. Encoders and prototypes
    have one line for each template. The two lines of a template, read back, carry the name of its
    instruction; the encoder is a branch exactly if the first piece of the template is a near jump,
    and if it is none, it has a type exactly if the prototype has a parameter, and the same. -/
theorem declarations_agree {indent : Text}
    (hyields : Yields assembler jobs sentinel sources session order (.ok compiled, after))
    (hindent : '\n' ∉ indent) :
    ∃ instructions, Instruction.deriveAll sources = .ok instructions ∧
      Declaration.prototypes indent (compiled.map (·.toSignature)) =
        Declaration.prototypes indent (instructions.map (·.toSignature)) ∧
      ∃ encoders prototypes : List Text,
        Text.splitWhere (· == '\n')
          (Declaration.encoders indent (compiled.map fun i => (i.toSignature, i.opcode))) = encoders ++ [[]] ∧
        Text.splitWhere (· == '\n')
          (Declaration.prototypes indent (instructions.map (·.toSignature))) = prototypes ++ [[]] ∧
        encoders.length = sources.length ∧ prototypes.length = sources.length ∧
        ∀ (number : Nat) (source : Text) (instruction : Instruction), sources[number]? = some source →
          instructions[number]? = some instruction → ∃ encoder prototype, encoders[number]? = some (indent ++ encoder) ∧
            prototypes[number]? = some (indent ++ prototype) ∧
            let read := Declaration.readEncoder encoder
            let read' := Declaration.readPrototype prototype
            read.name = instruction.identifier ∧ read'.name = instruction.identifier ∧
            (read.isBranch = true ↔ ∃ letters : Text, (Text.pieces source).head? = some ('j' :: letters) ∧
              (letters.length = 1 ∨ letters.length = 2) ∧ ∀ c ∈ letters, 'a' ≤ c ∧ c ≤ 'z') ∧
            (read.isBranch = false → read.type? = read'.type?) ∧
            read'.type? = instruction.operand.map (·.typeName) := by
  have hname := hyields.unbroken_identifier
  have hencoder := fun i hi => Declaration.newline_not_mem_encoder (hname i hi) i.opcode
  have hprototype := fun i hi => Declaration.newline_not_mem_prototype (hname i hi)
  have hderived := hyields.derived
  have hlength := hderived.length_eq
  refine ⟨_, hyields.deriveAll_eq_ok, by rw [List.map_map]; rfl,
    compiled.map (fun i => indent ++ Declaration.encoder i.toSignature i.opcode),
    compiled.map (fun i => indent ++ Declaration.prototype i.toSignature), ?_, ?_, by simp [hlength],
    by simp [hlength], ?_⟩
  · rw [Declaration.encoders, List.map_map]
    exact Declaration.splitWhere_block hindent hencoder
  · rw [Declaration.prototypes, List.map_map, List.map_map]
    exact Declaration.splitWhere_block hindent hprototype
  · intro number source instruction hsource hinstruction
    rw [List.getElem?_map, Option.map_eq_some_iff] at hinstruction
    obtain ⟨i, hi, rfl⟩ := hinstruction
    have hderive : Instruction.derive source = .ok i.toInstruction := by
      obtain ⟨hlt, rfl⟩ := List.getElem?_eq_some_iff.mp hsource
      obtain ⟨hlt', rfl⟩ := List.getElem?_eq_some_iff.mp hi
      exact (List.forall₂_iff_get.mp hderived).2 number hlt hlt'
    have hmem := hname i (List.mem_of_getElem? hi)
    refine ⟨_, _, by rw [List.getElem?_map, hi]; rfl, by rw [List.getElem?_map, hi]; rfl, ?_⟩
    rw [Declaration.readEncoder_encoder hmem, Declaration.readPrototype_prototype hmem, ← isBranch_iff,
      ← (Instruction.derive_eq_ok_iff.mp hderive).2.2.2]
    refine ⟨rfl, rfl, Iff.rfl, fun hplain => ?_, rfl⟩
    dsimp only at hplain ⊢
    rw [Signature.encodedOperand, hplain]
    rfl

/-- An assembler for a jump and a move of eight bytes. -/
def assemblesJumpAndMove : Assembler Unit := fun line _ =>
  let opcode := if line = "je 0x11111111" then [0x0f, 0x84] else [0x49, 0xbc]
  let operand := List.replicate (if line = "je 0x11111111" then 4 else 8) 0x11
  ({ result := .ok { instruction := line, status := 0, output := opcode ++ operand, stderr := [] }, notices := [] }, ())

/-- The type of a move stands in both of its lines. -/
theorem declarations_agree_move :
    let sources : List Text := ["je $label", "mov r12, $u64"]
    let compiled : List CompiledInstruction :=
      [⟨⟨⟨"je", some .label, true⟩, "je $label", [⟨.word "je", 0⟩, ⟨.placeholder .label, 0⟩]⟩, [0x0f, 0x84]⟩,
        ⟨⟨⟨"mov_r12_u64", some .u64, false⟩, "mov r12, $u64",
          [⟨.word "mov", 0⟩, ⟨.word "r12", 1⟩, ⟨.placeholder .u64, 0⟩]⟩, [0x49, 0xbc]⟩]
    (∃ order after, Yields assemblesJumpAndMove 1 0x11 sources (.new ()) order (.ok compiled, after)) ∧
      '\n' ∉ ("  " : Text) ∧
      ∃ encoders prototypes : List Text,
        Text.splitWhere (· == '\n')
          (Declaration.encoders "  " (compiled.map fun i => (i.toSignature, i.opcode))) = encoders ++ [[]] ∧
        encoders.length = sources.length ∧ prototypes.length = sources.length ∧
        ∃ encoder prototype, encoders[1]? = some (("  " : Text) ++ encoder) ∧
          prototypes[1]? = some (("  " : Text) ++ prototype) ∧
          (Declaration.readEncoder encoder).name = ("mov_r12_u64" : Text) ∧
          (Declaration.readPrototype prototype).name = ("mov_r12_u64" : Text) ∧
          ((Declaration.readEncoder encoder).isBranch = false →
            (Declaration.readEncoder encoder).type? = (Declaration.readPrototype prototype).type?) ∧
          (Declaration.readPrototype prototype).type? = some ("u64" : Text) := by
  intro sources compiled
  have hyields : ∃ order after, Yields assemblesJumpAndMove 1 0x11 sources (.new ()) order (.ok compiled, after) :=
    ⟨_, _, @Yields.inOrder Unit assemblesJumpAndMove 1 0x11 sources (.new ()) _ rfl (.inl (by decide))⟩
  have hindent : '\n' ∉ ("  " : Text) := by decide
  refine ⟨hyields, hindent, ?_⟩
  obtain ⟨_, _, hyields⟩ := hyields
  obtain ⟨instructions, hderive, _, encoders, prototypes, hencoders, _, hlength, hlength', hlines⟩ :=
    declarations_agree hyields hindent
  rw [hyields.deriveAll_eq_ok] at hderive
  cases hderive
  obtain ⟨encoder, prototype, hencoder, hprototype, hname, hname', _, htype, htype'⟩ := hlines 1 _ _ rfl rfl
  exact ⟨encoders, prototypes, hencoders, hlength, hlength', encoder, prototype, hencoder, hprototype,
    hname, hname', htype, htype'⟩

end InstrDecl.Compile
