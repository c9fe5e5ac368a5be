import InstrDecl.Proofs.Encoding.Accounting
import InstrDecl.Proofs.Encoding.AssemblyLine

namespace InstrDecl

variable {σ : Type}

/-- The number that stands in the line in place of the operand that the template leaves open. -/
def Template.writtenNumber? (template : Template) (line : Text) : Option Nat :=
  (template.tokens.findIdx? (·.kind?.isSome)).bind fun position =>
    (Text.pieces line)[position]?.bind fun piece => Text.hexNumber? piece.withoutCommas

/-- Whatever byte is the sentinel, the assembler encodes the line of the template as the opcode and
    the bytes of the number in the line; the operand of a label may be any bytes. -/
def Assembler.EncodesOperand (assembler : Assembler σ) (template : Template) (kind : OperandKind)
    (opcode : Bytes) : Prop :=
  ∀ (b : UInt8) (number : Nat) (state : σ), template.writtenNumber? (template.assemblyText b.toNat) = some number →
    ∃ (answer : Assembly) (operand : Bytes),
      (assembler (template.assemblyText b.toNat) state).1.result = .ok answer ∧ answer.status = 0 ∧
      answer.output = opcode ++ operand ∧
      (operand = littleEndian kind.width number ∨ kind = .label ∧ operand.length = kind.width)

theorem OperandKind.width_pos (kind : OperandKind) : 0 < kind.width := by
  cases kind <;> decide

theorem exists_byte {sentinel : Int} (hlow : 0 ≤ sentinel) (hhigh : sentinel ≤ 255) :
    ∃ b : UInt8, (b.toNat : Int) = sentinel := by
  refine ⟨UInt8.ofNat sentinel.toNat, ?_⟩
  rw [UInt8.toNat_ofNat']
  omega

namespace Template

variable {template : Template} {source : Text} {kind : OperandKind} {answer : Assembly}

/-- In the line for the assembler, the sentinel stands where the template has its placeholder. -/
theorem writtenNumber?_assemblyText (hparse : Template.parse source = .ok template)
    (hoperand : template.operand? = some kind) (b : UInt8) :
    template.writtenNumber? (template.assemblyText b.toNat) = some (sentinelNumber b kind.width) := by
  obtain ⟨position, hposition⟩ : ∃ position, template.tokens.findIdx? (·.kind?.isSome) = some position := by
    obtain ⟨token, htoken, hkind⟩ := List.exists_of_findSome?_eq_some hoperand
    rw [← Option.isSome_iff_exists, List.findIdx?_isSome, List.any_eq_true]
    exact ⟨token, htoken, Option.isSome_of_eq_some hkind⟩
  obtain ⟨hlt, hopen, _⟩ := List.findIdx?_eq_some_iff_getElem.mp hposition
  obtain ⟨kind', hkind⟩ := Option.isSome_iff_exists.mp hopen
  have hsame := operand?_eq_of_kind? hparse (List.getElem_mem hlt) hkind
  rw [hoperand] at hsame
  cases hsame
  have hpiece : (Text.pieces (template.assemblyText b.toNat))[position]? =
      some (sentinelLiteral kind.width b.toNat ++ List.replicate template.tokens[position].commas ',') := by
    rw [(pieces_assemblyText hparse b.toNat).1, List.getElem?_map, List.getElem?_map, List.getElem?_eq_getElem hlt,
      Option.map_some, Option.map_some, Token.settle_eq_of_kind? hkind]
    rfl
  have hliteral := readsAsWord_sentinelLiteral kind.width b.toNat
  rw [writtenNumber?, hposition, Option.bind_some, hpiece, Option.bind_some,
    Text.withoutCommas_append_commas hliteral.no_comma, hexNumber?_sentinelLiteral b kind.width_pos]

/-- An operand that is the sentinel, or one of a label, is cut off without a warning. -/
theorem opcode_of_operand {opcode operand : Bytes} {b : UInt8} (hoperand : template.operand? = some kind)
    (hstatus : answer.status = 0) (houtput : answer.output = opcode ++ operand)
    (hbytes : operand = littleEndian kind.width (sentinelNumber b kind.width) ∨
      kind = .label ∧ operand.length = kind.width) :
    template.opcode b.toNat answer =
      (.ok opcode, [.extracted (template.assemblyText b.toNat) answer.output opcode]) := by
  have hlt := b.toNat_lt
  have hquiet : operand.length = kind.width ∧ (kind.isRelative || isSentinel b.toNat operand) = true := by
    rcases hbytes with hsentinel | ⟨rfl, hwidth⟩
    · rw [littleEndian_sentinelNumber] at hsentinel
      rw [hsentinel, Bool.or_eq_true, isSentinel_iff]
      constructor
      · exact List.length_replicate
      · exact .inr fun c hc => by rw [List.eq_of_mem_replicate hc]
    · exact ⟨hwidth, rfl⟩
  rw [opcode_of_append hstatus hoperand houtput hquiet.1 (.inr (by omega)), cutNotices, hquiet.2, houtput]
  rfl

/-- Every sentinel that is a byte finds the opcode of an assembler that encodes the operand so. -/
theorem extract_of_encodesOperand {assembler : Assembler σ} {opcode : Bytes}
    (hparse : Template.parse source = .ok template) (hoperand : template.operand? = some kind)
    (hencodes : assembler.EncodesOperand template kind opcode) {sentinel : Int} (hlow : 0 ≤ sentinel)
    (hhigh : sentinel ≤ 255) (session : Session σ) :
    (template.extract assembler sentinel session).1 = .ok opcode := by
  obtain ⟨b, rfl⟩ := exists_byte hlow hhigh
  obtain ⟨answer, operand, hanswer, hstatus, houtput, hbytes⟩ :=
    hencodes b _ session.state (writtenNumber?_assemblyText hparse hoperand b)
  rw [extract_eq_of_answer hanswer, opcode_of_operand hoperand hstatus houtput hbytes]

/-- For a sentinel that is a byte, the line for the assembler has a number in place of the operand.
    If the assembler accepts the line and its encoding ends with that number, lowest byte first, then
    all before it is what is found, and there is no warning; after the opcode of a label there may be
    any bytes. So all sentinels find the same opcode, if the assembler encodes all of them so. -/
theorem extract_recovers_opcode (hparse : Template.parse source = .ok template)
    (hoperand : template.operand? = some kind) :
    (∀ sentinel : Int, 0 ≤ sentinel → sentinel ≤ 255 →
      ∃ number, Text.hexNumber? (sentinelLiteral kind.width sentinel) = some number ∧
        template.writtenNumber? (template.assemblyText sentinel) = some number ∧
        ∀ (assembler : Assembler σ) (session : Session σ) (answer : Assembly) (opcode operand : Bytes),
          (assembler (template.assemblyText sentinel) session.state).1.result = .ok answer →
          answer.status = 0 → answer.output = opcode ++ operand →
          (operand = littleEndian kind.width number ∨ kind = .label ∧ operand.length = kind.width) →
          ∃ added after, template.extract assembler sentinel session = (.ok opcode, after) ∧
            after.notices = session.notices ++
              (assembler (template.assemblyText sentinel) session.state).1.notices ++ added ∧
            ∀ notice ∈ added, notice.level ≠ .warning) ∧
    ∀ (assembler : Assembler σ) (opcode : Bytes), assembler.EncodesOperand template kind opcode →
      ∀ (sentinel sentinel' : Int) (session session' : Session σ), 0 ≤ sentinel → sentinel ≤ 255 →
        0 ≤ sentinel' → sentinel' ≤ 255 →
        (template.extract assembler sentinel session).1 = .ok opcode ∧
          (template.extract assembler sentinel' session').1 = (template.extract assembler sentinel session).1 := by
  constructor
  · intro sentinel hlow hhigh
    obtain ⟨b, rfl⟩ := exists_byte hlow hhigh
    refine ⟨sentinelNumber b kind.width, hexNumber?_sentinelLiteral b kind.width_pos,
      writtenNumber?_assemblyText hparse hoperand b, ?_⟩
    intro assembler session answer opcode operand hanswer hstatus houtput hbytes
    have hextract := extract_eq_of_answer hanswer
    rw [opcode_of_operand hoperand hstatus houtput hbytes] at hextract
    refine ⟨_, _, hextract, rfl, ?_⟩
    intro notice hnotice hlevel
    rw [List.mem_singleton.mp hnotice] at hlevel
    cases hlevel
  · intro assembler opcode hencodes sentinel sentinel' session session' hlow hhigh hlow' hhigh'
    rw [extract_of_encodesOperand hparse hoperand hencodes hlow hhigh session,
      extract_of_encodesOperand hparse hoperand hencodes hlow' hhigh' session']
    exact ⟨rfl, rfl⟩

/-- An assembler for moves into one register: the number after the comma is the operand. -/
def assemblesWideMove : Assembler Unit := fun line _ =>
  let operand := littleEndian 8 ((Text.hexNumber? (line.drop ("mov r12, " : Text).length)).getD 0)
  let output := [0x49, 0xbc] ++ operand
  ({ result := .ok { instruction := line, status := 0, output, stderr := [] }, notices := [] }, ())

/-- Leading zeros are part of the number: with the sentinel 5 all eight bytes are 5. -/
theorem extract_recovers_opcode_move :
    let source : Text := "mov r12, $u64"
    let template : Template := ⟨source, [⟨.word "mov", 0⟩, ⟨.word "r12", 1⟩, ⟨.placeholder .u64, 0⟩]⟩
    Template.parse source = .ok template ∧ template.operand? = some .u64 ∧
      template.writtenNumber? (template.assemblyText 5) = some 0x0505050505050505 ∧
      (∃ added after, template.extract assemblesWideMove 5 (.new ()) = (.ok [0x49, 0xbc], after) ∧
        after.notices = added ∧ ∀ notice ∈ added, notice.level ≠ .warning) ∧
      assemblesWideMove.EncodesOperand template .u64 [0x49, 0xbc] ∧
      (template.extract assemblesWideMove 255 (.new ())).1 = (template.extract assemblesWideMove 0 (.new ())).1 := by
  intro source template
  have hparse : Template.parse source = .ok template := rfl
  have hwritten : template.writtenNumber? (template.assemblyText 5) = some 0x0505050505050505 := by rfl
  have hencodes : assemblesWideMove.EncodesOperand template .u64 [0x49, 0xbc] := by
    intro b number _ hnumber
    rw [writtenNumber?_assemblyText hparse rfl b] at hnumber
    cases hnumber
    have hline : template.assemblyText b.toNat =
        ("mov r12, " : Text) ++ sentinelLiteral OperandKind.u64.width b.toNat := by
      rw [assemblyText_eq_line hparse]
      simp [template, Token.settle, Token.raw, Token.text, Lexeme.text, Token.separator,
        List.intercalate_cons_cons]
    refine ⟨_, _, rfl, rfl, rfl, .inl ?_⟩
    rw [hline, List.drop_left, hexNumber?_sentinelLiteral b OperandKind.u64.width_pos, Option.getD_some]
    rfl
  obtain ⟨hone, hall⟩ := extract_recovers_opcode (σ := Unit) hparse rfl
  refine ⟨hparse, rfl, hwritten, ?_, hencodes, ?_⟩
  · obtain ⟨number, _, hnumber, hfound⟩ := hone 5 (by decide) (by decide)
    rw [hwritten] at hnumber
    cases hnumber
    exact hfound assemblesWideMove (.new ()) _ [0x49, 0xbc] _ rfl rfl rfl (.inl rfl)
  · exact (hall assemblesWideMove _ hencodes 0 255 (.new ()) (.new ()) (by decide) (by decide) (by decide)
      (by decide)).2

end Template

end InstrDecl
