import InstrDecl.Proofs.Compile.InOrder
import InstrDecl.Proofs.Template.Parse

namespace InstrDecl.Compile

variable {σ : Type}

theorem templates_eq_inOrder {assembler : Assembler σ} {jobs sentinel : Int} {sources : List Text}
    {session : Session σ} {instructions : List Instruction} (hjobs : jobs ≤ 1)
    (hderive : Instruction.deriveAll sources = .ok instructions) :
    templates assembler jobs sentinel sources session =
      conclude (inOrder assembler sentinel instructions (session.note [.derived instructions.length])) := by
  simp [templates, hderive, hjobs]

/-- Compiling a list one template at a time is all or nothing, whatever the assembler answers and
    even if its answers depend on earlier calls. A rejected template fails the run before the
    assembler is called at all. Otherwise the assembler is given one line for each template in
    order, up to and including the first that it cannot encode; that one's error is the outcome,
    and only without such an error are there results, one for each template. -/
theorem templates_all_or_nothing (assembler : Assembler σ) (jobs sentinel : Int) (hjobs : jobs ≤ 1)
    (sources : List Text) (session : Session σ) :
    (∀ (number : Nat) source e, sources[number]? = some source → Template.parse source = .error e →
      (∀ earlier < number, ∀ source, sources[earlier]? = some source →
        ∃ template, Template.parse source = .ok template) →
      e.template = source ∧
        templates assembler jobs sentinel sources session = (.error (.template e), session)) ∧
    ((∀ source ∈ sources, ∃ template, Template.parse source = .ok template) →
      ∃ instructions, List.Forall₂ (fun source instruction => Instruction.derive source = .ok instruction)
          sources instructions ∧
        let start := session.note [.derived sources.length]
        (∀ opcodes : List Bytes, opcodes.length = sources.length →
          (∀ number opcode, opcodes[number]? = some opcode →
            extraction assembler sentinel instructions start number = some (.ok opcode)) →
          ∃ compiled after, templates assembler jobs sentinel sources session = (.ok compiled, after) ∧
            compiled.map (·.toInstruction) = instructions ∧ compiled.map (·.opcode) = opcodes ∧
            after.calls = session.calls ++ instructions.map (·.template.assemblyText sentinel)) ∧
        (∀ number e, extraction assembler sentinel instructions start number = some (.error e) →
          (∀ earlier < number, ∃ opcode,
            extraction assembler sentinel instructions start earlier = some (.ok opcode)) →
          ∃ after, templates assembler jobs sentinel sources session = (.error (.encoding e), after) ∧
            after.calls = session.calls ++
              (instructions.take (number + 1)).map (·.template.assemblyText sentinel))) := by
  constructor
  · intro number source e hsource hparse hbefore
    refine ⟨Template.parse_error_template hparse, ?_⟩
    have hderive : Instruction.deriveAll sources = .error e := by
      refine mapM_eq_error hsource (Instruction.derive_eq_error_iff.mpr hparse) fun earlier hlt source hsource => ?_
      obtain ⟨template, htemplate⟩ := hbefore earlier hlt source hsource
      exact Instruction.exists_derive_eq_ok htemplate
    simp [templates, hderive]
  · intro hall
    obtain ⟨instructions, hderive⟩ : ∃ instructions, Instruction.deriveAll sources = .ok instructions := by
      refine exists_mapM_eq_ok fun source hsource => ?_
      obtain ⟨template, htemplate⟩ := hall source hsource
      exact Instruction.exists_derive_eq_ok htemplate
    have hderived := mapM_eq_ok_iff.mp hderive
    have hlength := hderived.length_eq
    refine ⟨instructions, hderived, ?_⟩
    rw [templates_eq_inOrder hjobs hderive, ← hlength]
    constructor
    · intro opcodes hopcodes hextract
      obtain ⟨compiled, hinstructions, hbytes, hrun⟩ := inOrder_eq_ok (hopcodes.trans hlength) hextract
      refine ⟨compiled, _, by rw [hrun]; rfl, hinstructions, hbytes, ?_⟩
      simp only [Session.note, sessionBefore_calls, List.take_length]
    · intro number e hfails hbefore
      refine ⟨_, by rw [inOrder_eq_error hfails hbefore]; rfl, ?_⟩
      simp only [Session.note, sessionBefore_calls]

/-- An assembler that accepts its first line and no later one: its exit status counts the calls. -/
def acceptsOnce : Assembler Nat := fun line calls =>
  ({ result := .ok { instruction := line, status := calls, output := [0x90], stderr := [] }, notices := [] },
    calls + 1)

/-- The third instruction is not assembled after the second was rejected. -/
theorem templates_all_or_nothing_acceptsOnce :
    (1 : Int) ≤ 1 ∧ ∃ after, templates acceptsOnce 1 0x11 ["nop", "ret", "hlt"] (.new 0) =
        (.error (.encoding (.assembly ⟨"ret", .rejected 1 []⟩)), after) ∧
      after.calls = (["nop", "ret"] : List Text) := by
  refine ⟨by decide, ?_⟩
  have hread : ∀ source ∈ (["nop", "ret", "hlt"] : List Text),
      ∃ template, Template.parse source = .ok template := by
    simp only [List.forall_mem_cons]
    exact ⟨⟨_, rfl⟩, ⟨_, rfl⟩, ⟨_, rfl⟩, by simp⟩
  obtain ⟨instructions, hderived, _, hfails⟩ :=
    (templates_all_or_nothing acceptsOnce 1 0x11 (by decide) ["nop", "ret", "hlt"] (.new 0)).2 hread
  obtain rfl := Except.ok.inj (mapM_eq_ok_iff.mpr hderived)
  refine hfails 1 _ rfl fun earlier hlt => ⟨[0x90], ?_⟩
  obtain rfl : earlier = 0 := by omega
  rfl

end InstrDecl.Compile
