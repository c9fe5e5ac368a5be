import InstrDecl.Diagnostic.Basic
import InstrDecl.Proofs.Compile.Turns
import InstrDecl.Proofs.Encoding.Accounting
import InstrDecl.Proofs.Toolchain.Scratch

namespace InstrDecl

open Pool (Turn worldAfter)

/-- How a start that was recorded ended. -/
def Launch.ending (program : Program) (launch : Launch) : Except RunFault Completion :=
  program launch.toInvocation (Utf8.encode launch.source)

/-- The number of bytes at the end of an encoding that belong to the operand. -/
def Template.operandWidth (template : Template) : Nat :=
  (template.operand?.map (·.width)).getD 0

/-- The start led to an encoding with room for the operand, and before the operand stand the opcode
    bytes. -/
def Template.Encodes (template : Template) (ending : Except RunFault Completion) (opcode : Bytes) : Prop :=
  ∃ completion encoding, ending = .ok completion ∧ completion.status = 0 ∧
    completion.content = .ok encoding ∧ template.operandWidth ≤ encoding.length ∧
    opcode = encoding.take (encoding.length - template.operandWidth)

/-- A call leads to one opcode at most. -/
theorem Template.Encodes.unique {template : Template} {ending : Except RunFault Completion} {opcode opcode' : Bytes}
    (hencodes : template.Encodes ending opcode) (hencodes' : template.Encodes ending opcode') : opcode = opcode' := by
  obtain ⟨completion, encoding, rfl, _, hcontent, _, rfl⟩ := hencodes
  obtain ⟨_, encoding', hending, _, hcontent', _, rfl⟩ := hencodes'
  cases hending
  rw [hcontent] at hcontent'
  cases hcontent'
  rfl

section FailureStatus

variable {completion : Completion}

end FailureStatus

namespace Tool

variable {tool : Tool} {program : Program} {sentinel : Int} {instruction : Instruction}

/-- What an instruction comes to, told from how the start for it ended. -/
def outcome (tool : Tool) (sentinel : Int) (instruction : Instruction) (invocation : Invocation)
    (ending : Except RunFault Completion) : Except EncodingError CompiledInstruction :=
  match tool.answer invocation (instruction.template.assemblyText sentinel) ending with
  | .error e => .error e
  | .ok answer => (instruction.template.opcode sentinel answer).1.map fun opcode => { instruction with opcode }

variable {invocation : Invocation}

/-- What a turn of an instruction is: one start of the program, in a directory that no earlier start
    had, after which the files are as they were. -/
structure Started (tool : Tool) (program : Program) (sentinel : Int) (instruction : Instruction)
    (before after : Workspace) (result : Except EncodingError CompiledInstruction) (launch : Launch) : Prop where
  source : launch.source = tool.sourceText (instruction.template.assemblyText sentinel)
  result : result = tool.outcome sentinel instruction launch.toInvocation (launch.ending program)
  launches : after.launches = before.launches ++ [launch]
  files : after.files = before.files
  directory : ∃ number, before.scratchCount ≤ number ∧ after.scratchCount = number + 1 ∧
    launch.toInvocation = tool.invocation (Scratch.directory number)

theorem one_state (assembler : Assembler Workspace) (sentinel : Int) (instruction : Instruction)
    (session : Session Workspace) :
    (Compile.one assembler sentinel instruction session).2.state =
      (assembler (instruction.template.assemblyText sentinel) session.state).2 := by
  unfold Compile.one Template.extract Session.call
  dsimp only
  cases (assembler (instruction.template.assemblyText sentinel) session.state).1.result <;> rfl

/-- Every call is one start of the program, and its answer is told from how that ended. -/
theorem exists_launch (tool : Tool) (program : Program) (line : Text) (workspace : Workspace) :
    ∃ launch : Launch, launch.source = tool.sourceText line ∧
      (tool.assemble program line workspace).1.result =
        tool.answer launch.toInvocation line (launch.ending program) ∧
      (tool.assemble program line workspace).2.launches = workspace.launches ++ [launch] ∧
      ∃ number, workspace.scratchCount ≤ number ∧
        (tool.assemble program line workspace).2.scratchCount = number + 1 ∧
        launch.toInvocation = tool.invocation (Scratch.directory number) := by
  let number := Scratch.freeNumber workspace.files workspace.scratchCount
  let scratch := Scratch.directory number
  exact ⟨{ tool.invocation scratch with scratch, source := tool.sourceText line }, rfl,
    assemble_result tool program line workspace, rfl, number, Scratch.le_freeNumber _ _, rfl, rfl⟩

/-- Compiling an instruction starts the assembler once, for the line of the instruction. -/
theorem exists_started (tool : Tool) (program : Program) (sentinel : Int) (instruction : Instruction)
    (session : Session Workspace) :
    ∃ launch, tool.Started program sentinel instruction session.state
      (Compile.one (tool.assemble program) sentinel instruction session).2.state
      (Compile.one (tool.assemble program) sentinel instruction session).1 launch := by
  let line := instruction.template.assemblyText sentinel
  obtain ⟨launch, hsource, hresult, hlaunches, hdirectory⟩ := tool.exists_launch program line session.state
  rw [one_state]
  refine ⟨launch, hsource, ?_, hlaunches, assemble_files tool program line session.state, hdirectory⟩
  unfold Compile.one Template.extract Session.call
  dsimp only
  rw [hresult, outcome]
  cases tool.answer launch.toInvocation line (launch.ending program) <;> rfl

/-- A call was made for the instruction of the given number, and from how it ended the instruction came
    to this. -/
def Came (tool : Tool) (program : Program) (sentinel : Int) (instructions : List Instruction)
    (calls : List (Nat × Launch)) (number : Nat) (result : Except EncodingError CompiledInstruction) : Prop :=
  ∃ launch instruction, (number, launch) ∈ calls ∧ instructions[number]? = some instruction ∧
    result = tool.outcome sentinel instruction launch.toInvocation (launch.ending program)

/-- The calls of turns in the given order: the numbers of the instructions, each with the start that
    was made for it. -/
structure CallLog (tool : Tool) (program : Program) (sentinel : Int) (instructions : List Instruction)
    (session : Session Workspace) (order : List Nat) (calls : List (Nat × Launch)) : Prop where
  numbers : calls.map (·.1) = order
  launches : (worldAfter (Compile.one (tool.assemble program) sentinel) instructions session order).state.launches =
    session.state.launches ++ calls.map (·.2)
  files : (worldAfter (Compile.one (tool.assemble program) sentinel) instructions session order).state.files =
    session.state.files
  came : ∀ number result,
    Turn (Compile.one (tool.assemble program) sentinel) instructions session order number result →
      tool.Came program sentinel instructions calls number result
  source : ∀ number launch, (number, launch) ∈ calls → ∃ instruction, instructions[number]? = some instruction ∧
    launch.source = tool.sourceText (instruction.template.assemblyText sentinel)
  directory : ∀ call ∈ calls, ∃ number, session.state.scratchCount ≤ number ∧
    call.2.toInvocation = tool.invocation (Scratch.directory number)
  apart : (calls.map (·.2.toInvocation)).Nodup

theorem CallLog.nil (tool : Tool) (program : Program) (sentinel : Int) (instructions : List Instruction)
    (session : Session Workspace) : tool.CallLog program sentinel instructions session [] [] where
  numbers := rfl
  launches := by simp [worldAfter]
  files := rfl
  came := by simp [Turn]
  source := by simp
  directory := by simp
  apart := List.nodup_nil

/-- One more call comes before the others, in a directory of its own. -/
theorem CallLog.cons {instructions : List Instruction} {session : Session Workspace} {order : List Nat} {first : Nat}
    {launch : Launch} {calls : List (Nat × Launch)} (hinstruction : instructions[first]? = some instruction)
    (hstarted : tool.Started program sentinel instruction session.state
      (Compile.one (tool.assemble program) sentinel instruction session).2.state
      (Compile.one (tool.assemble program) sentinel instruction session).1 launch)
    (hlog : tool.CallLog program sentinel instructions
      (Compile.one (tool.assemble program) sentinel instruction session).2 order calls) :
    tool.CallLog program sentinel instructions session (first :: order) ((first, launch) :: calls) := by
  have hworld : worldAfter (Compile.one (tool.assemble program) sentinel) instructions session (first :: order) =
      worldAfter (Compile.one (tool.assemble program) sentinel) instructions
        (Compile.one (tool.assemble program) sentinel instruction session).2 order := by
    simp [worldAfter, hinstruction]
  obtain ⟨number, hcount, hnext, hinvocation⟩ := hstarted.directory
  constructor
  · rw [List.map_cons, hlog.numbers]
  · rw [hworld, hlog.launches, hstarted.launches]
    simp
  · rw [hworld, hlog.files, hstarted.files]
  · intro number result hturn
    rcases (Pool.turn_cons_iff hinstruction).mp hturn with ⟨rfl, hresult⟩ | hlater
    · exact ⟨launch, instruction, List.mem_cons_self, hinstruction, hresult.trans hstarted.result⟩
    · obtain ⟨other, instruction', hmem, hrest⟩ := hlog.came number result hlater
      exact ⟨other, instruction', List.mem_cons_of_mem _ hmem, hrest⟩
  · intro number other hmem
    rcases List.mem_cons.mp hmem with hsame | hrest
    · cases hsame
      exact ⟨instruction, hinstruction, hstarted.source⟩
    · exact hlog.source number other hrest
  · intro call hmem
    rcases List.mem_cons.mp hmem with rfl | hrest
    · exact ⟨number, hcount, hinvocation⟩
    · obtain ⟨later, hle, hlater⟩ := hlog.directory call hrest
      exact ⟨later, by omega, hlater⟩
  · -- Later directories have larger numbers.
    refine List.nodup_cons.mpr ⟨fun hmem => ?_, hlog.apart⟩
    obtain ⟨call, hcall, hsame⟩ := List.mem_map.mp hmem
    obtain ⟨later, hle, hlater⟩ := hlog.directory call hcall
    have hnumber : later = number := invocation_injective (hlater.symm.trans (hsame.trans hinvocation))
    omega

/-- However the instructions are ordered, there is a log of their calls. -/
theorem exists_callLog (tool : Tool) (program : Program) (sentinel : Int) {instructions : List Instruction}
    {order : List Nat} (hwithin : ∀ number ∈ order, number < instructions.length) (session : Session Workspace) :
    ∃ calls, tool.CallLog program sentinel instructions session order calls := by
  induction order generalizing session with
  | nil => exact ⟨[], .nil tool program sentinel instructions session⟩
  | cons first rest ih =>
    obtain ⟨instruction, hinstruction⟩ : ∃ instruction, instructions[first]? = some instruction :=
      ⟨_, List.getElem?_eq_getElem (hwithin first List.mem_cons_self)⟩
    obtain ⟨launch, hstarted⟩ := tool.exists_started program sentinel instruction session
    obtain ⟨calls, hlog⟩ := ih (fun number hnumber => hwithin number (List.mem_cons_of_mem _ hnumber))
      (Compile.one (tool.assemble program) sentinel instruction session).2
    exact ⟨_, hlog.cons hinstruction hstarted⟩

end Tool

end InstrDecl
