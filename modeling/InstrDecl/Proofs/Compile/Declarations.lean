import InstrDecl.Proofs.Compile.Scheduled
import InstrDecl.Proofs.Declaration.Readable
import InstrDecl.Proofs.Text.Unbroken

namespace InstrDecl

/-- To spell out the plus signs of an address adds no blank. -/
theorem Text.Unbroken.spellPlus {text : Text} (htext : text.Unbroken) : (Text.spellPlus text).Unbroken := by
  intro d hd
  obtain ⟨c, hc, hmem⟩ := List.mem_flatMap.mp hd
  split at hmem
  · have hplus : Text.Unbroken "_plus_" := by decide
    exact hplus d hmem
  · obtain rfl := List.mem_singleton.mp hmem
    exact htext d hc

/-- What a lexeme adds to a name holds no blank if its text holds none, also where it is written in
    lowercase or spelled out. -/
theorem Lexeme.unbroken_segment {text : Text} {lexeme : Lexeme} (htext : text.Unbroken)
    (hread : Lexeme.read text = .ok lexeme) : Text.Unbroken lexeme.segment := by
  unfold Lexeme.read at hread
  split at hread
  · split at hread
    · next kind _ =>
      cases hread
      cases kind <;> decide
    · cases hread
  · split at hread
    · cases hread
      have hptr : Text.Unbroken "ptr_" := by decide
      exact hptr.append (htext.subset (Text.interior_subset _)).spellPlus
    · cases hread
  · cases hread
    exact htext.lower

theorem Token.unbroken_segment {piece : Text} {token : Token} (hpiece : piece.Unbroken)
    (hread : Token.read piece = .ok token) : Text.Unbroken token.lexeme.segment := by
  have hstripped : Text.Unbroken piece.withoutCommas := hpiece.subset (Text.dropEndWhile_subset (· == ',') piece)
  unfold Token.read at hread
  dsimp only at hread
  cases hlexeme : Lexeme.read piece.withoutCommas with
  | error fault =>
    rw [hlexeme] at hread
    cases hread
  | ok lexeme =>
    rw [hlexeme] at hread
    cases hread
    exact Lexeme.unbroken_segment hstripped hlexeme

/-- The name of an instruction holds no blank. -/
theorem Instruction.unbroken_identifier {source : Text} {instruction : Instruction}
    (hderive : Instruction.derive source = .ok instruction) : Text.Unbroken instruction.identifier := by
  obtain ⟨hparse, hidentifier, _⟩ := Instruction.derive_eq_ok_iff.mp hderive
  obtain ⟨_, hread, _⟩ := Template.parse_eq_ok_iff.mp hparse
  intro c hc
  rw [hidentifier] at hc
  rcases Text.mem_of_mem_intercalate hc with hjoint | ⟨segment, hsegment, hmem⟩
  · obtain rfl := List.mem_singleton.mp hjoint
    rfl
  · obtain ⟨token, htoken, rfl⟩ := List.mem_map.mp (List.mem_filter.mp hsegment).1
    obtain ⟨piece, hpiece, hpieceRead⟩ := exists_mem_left_of_mem_right hread htoken
    exact Token.unbroken_segment (Text.isBlank_eq_false_of_mem_pieces hpiece) hpieceRead c hmem

namespace Compile

variable {σ : Type} {assembler : Assembler σ} {jobs sentinel : Int} {sources : List Text}
variable {session after : Session σ} {order : List Nat} {compiled : List CompiledInstruction}

/-- Compiling adds an opcode to an instruction and changes nothing of it. -/
theorem toInstruction_of_one_eq_ok {instruction : Instruction} {result : CompiledInstruction}
    (hone : (one assembler sentinel instruction session).1 = .ok result) : instruction = result.toInstruction := by
  unfold one at hone
  generalize instruction.template.extract assembler sentinel session = extraction at hone
  obtain ⟨opcode, _⟩ := extraction
  cases opcode with
  | error e => cases hone
  | ok opcode =>
    cases hone
    rfl

/-- The compiled instructions are those that the lines describe, in order. -/
theorem Yields.derived (hyields : Yields assembler jobs sentinel sources session order (.ok compiled, after)) :
    List.Forall₂ (fun source instruction => Instruction.derive source = .ok instruction.toInstruction)
      sources compiled := by
  cases hderive : Instruction.deriveAll sources with
  | error e =>
    obtain ⟨_, hlast⟩ := hyields.of_rejected hderive
    cases hlast
  | ok instructions =>
    obtain ⟨outcome, hsettles, hresult⟩ := hyields.settles
      (R := fun instruction result => ∀ compiled, result = .ok compiled → instruction = compiled.toInstruction)
      (fun _ _ _ => toInstruction_of_one_eq_ok) hderive
    cases outcome with
    | error e => cases hresult
    | ok results =>
      cases hresult
      have hkept : List.Forall₂ (fun instruction result => instruction = result.toInstruction) instructions compiled :=
        hsettles.ends.1.imp fun _ result hkeeps => hkeeps result rfl
      rw [← List.forall₂_map_right_iff, List.forall₂_eq_eq_eq] at hkept
      have hderived := mapM_eq_ok_iff.mp hderive
      rwa [hkept, List.forall₂_map_right_iff] at hderived

/-- No name in a compiled list holds a blank, whatever its lines hold. -/
theorem Yields.unbroken_identifier
    (hyields : Yields assembler jobs sentinel sources session order (.ok compiled, after)) :
    ∀ instruction ∈ compiled, Text.Unbroken instruction.identifier := by
  intro instruction hinstruction
  obtain ⟨source, _, hderive⟩ := exists_mem_left_of_mem_right hyields.derived hinstruction
  exact Instruction.unbroken_identifier hderive

/-- The declarations of compiled lists are unambiguous, whatever the assemblers answered and in
    whatever order. Each is one line of the text, and two texts are equal exactly when line by line
    they declare the same: an encoder the kind of instruction, its name, its opcode and, if it is no
    branch, its operand; a prototype the name and the operand. -/
theorem declarations_unambiguous {σ' : Type} {assembler' : Assembler σ'} {jobs' sentinel' : Int}
    {sources' : List Text} {session' after' : Session σ'} {order' : List Nat}
    {compiled' : List CompiledInstruction} {indent : Text}
    (hyields : Yields assembler jobs sentinel sources session order (.ok compiled, after))
    (hyields' : Yields assembler' jobs' sentinel' sources' session' order' (.ok compiled', after'))
    (hindent : '\n' ∉ indent) :
    (∀ i ∈ compiled, '\n' ∉ Declaration.encoder i.toSignature i.opcode ∧ '\n' ∉ Declaration.prototype i.toSignature) ∧
    Text.splitWhere (· == '\n') (Declaration.encoders indent (compiled.map fun i => (i.toSignature, i.opcode))) =
      compiled.map (fun i => indent ++ Declaration.encoder i.toSignature i.opcode) ++ [[]] ∧
    Text.splitWhere (· == '\n') (Declaration.prototypes indent (compiled.map (·.toSignature))) =
      compiled.map (fun i => indent ++ Declaration.prototype i.toSignature) ++ [[]] ∧
    (Declaration.encoders indent (compiled.map fun i => (i.toSignature, i.opcode)) =
        Declaration.encoders indent (compiled'.map fun i => (i.toSignature, i.opcode)) ↔
      List.Forall₂ (fun i i' => i.isBranch = i'.isBranch ∧ i.identifier = i'.identifier ∧
        i.opcode = i'.opcode ∧ (i.isBranch = false → i.operand = i'.operand)) compiled compiled') ∧
    (Declaration.prototypes indent (compiled.map (·.toSignature)) =
        Declaration.prototypes indent (compiled'.map (·.toSignature)) ↔
      List.Forall₂ (fun i i' => i.identifier = i'.identifier ∧ i.operand = i'.operand) compiled compiled') := by
  have hname := hyields.unbroken_identifier
  have hname' := hyields'.unbroken_identifier
  have hencoder := fun i hi => Declaration.newline_not_mem_encoder (hname i hi) i.opcode
  have hencoder' := fun i hi => Declaration.newline_not_mem_encoder (hname' i hi) i.opcode
  have hprototype := fun i hi => Declaration.newline_not_mem_prototype (hname i hi)
  have hprototype' := fun i hi => Declaration.newline_not_mem_prototype (hname' i hi)
  simp only [Declaration.encoders, Declaration.prototypes, List.map_map]
  refine ⟨fun i hi => ⟨hencoder i hi, hprototype i hi⟩, Declaration.splitWhere_block hindent hencoder,
    Declaration.splitWhere_block hindent hprototype, ?_, ?_⟩
  · exact Declaration.block_eq_block_iff hindent hencoder hencoder' fun i hi i' hi' =>
      Declaration.encoder_eq_encoder_iff (hname i hi) (hname' i' hi')
  · exact Declaration.block_eq_block_iff hindent hprototype hprototype' fun i hi i' hi' =>
      Declaration.prototype_eq_prototype_iff (hname i hi) (hname' i' hi')

/-- An assembler for jumps with and without a label. -/
def assemblesJumps : Assembler Unit := fun line _ =>
  let output := if line = "jmp" then [0xe9] else [0xe9, 0, 0, 0, 0]
  ({ result := .ok { instruction := line, status := 0, output, stderr := [] }, notices := [] }, ())

/-- The operand of a branch is seen in its prototype only. -/
theorem declarations_unambiguous_jump :
    let compiled : List CompiledInstruction :=
      [⟨⟨⟨"jmp", some .label, true⟩, "jmp $label", [⟨.word "jmp", 0⟩, ⟨.placeholder .label, 0⟩]⟩, [0xe9]⟩]
    let compiled' : List CompiledInstruction := [⟨⟨⟨"jmp", none, true⟩, "jmp", [⟨.word "jmp", 0⟩]⟩, [0xe9]⟩]
    (∃ order after, Yields assemblesJumps 1 0x11 ["jmp $label"] (.new ()) order (.ok compiled, after)) ∧
      (∃ order after, Yields assemblesJumps 1 0x11 ["jmp"] (.new ()) order (.ok compiled', after)) ∧
      '\n' ∉ ("  " : Text) ∧
      Declaration.encoders "  " (compiled.map fun i => (i.toSignature, i.opcode)) =
        Declaration.encoders "  " (compiled'.map fun i => (i.toSignature, i.opcode)) ∧
      Declaration.prototypes "  " (compiled.map (·.toSignature)) ≠
        Declaration.prototypes "  " (compiled'.map (·.toSignature)) := by
  intro compiled compiled'
  have hyields : ∃ order after, Yields assemblesJumps 1 0x11 ["jmp $label"] (.new ()) order (.ok compiled, after) :=
    ⟨_, _, @Yields.inOrder Unit assemblesJumps 1 0x11 ["jmp $label"] (.new ()) _ rfl (.inl (by decide))⟩
  have hyields' : ∃ order after, Yields assemblesJumps 1 0x11 ["jmp"] (.new ()) order (.ok compiled', after) :=
    ⟨_, _, @Yields.inOrder Unit assemblesJumps 1 0x11 ["jmp"] (.new ()) _ rfl (.inl (by decide))⟩
  have hindent : '\n' ∉ ("  " : Text) := by decide
  refine ⟨hyields, hyields', hindent, ?_⟩
  obtain ⟨_, _, hyields⟩ := hyields
  obtain ⟨_, _, hyields'⟩ := hyields'
  obtain ⟨_, _, _, hencoders, hprototypes⟩ := declarations_unambiguous hyields hyields' hindent
  refine ⟨hencoders.mpr (.cons ⟨rfl, rfl, rfl, nofun⟩ .nil), ?_⟩
  intro hsame
  obtain ⟨⟨_, hoperand⟩, _⟩ := List.forall₂_cons.mp (hprototypes.mp hsame)
  exact absurd hoperand (by decide)

end Compile

end InstrDecl
