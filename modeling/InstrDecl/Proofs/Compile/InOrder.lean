import InstrDecl.Compile.Basic
import InstrDecl.Proofs.Pool.Outcome

namespace InstrDecl

variable {σ : Type}

/-- Whatever the assembler answers, it is given the line of the template and no other. -/
theorem Template.extract_calls (template : Template) (assembler : Assembler σ) (sentinel : Int)
    (session : Session σ) :
    (template.extract assembler sentinel session).2.calls =
      session.calls ++ [template.assemblyText sentinel] := by
  have hcall : (session.call assembler (template.assemblyText sentinel)).2.calls =
      session.calls ++ [template.assemblyText sentinel] := rfl
  unfold Template.extract
  generalize session.call assembler (template.assemblyText sentinel) = reply at hcall ⊢
  obtain ⟨result, after⟩ := reply
  cases result <;> exact hcall

namespace Compile

/-- The session in which the turn of the instruction of the given number comes, when those before
    it have had theirs. -/
def sessionBefore (assembler : Assembler σ) (sentinel : Int) (instructions : List Instruction)
    (session : Session σ) (number : Nat) : Session σ :=
  (instructions.take number).foldl
    (fun session instruction => (instruction.template.extract assembler sentinel session).2) session

/-- What the instruction of the given number comes to when its turn comes. -/
def extraction (assembler : Assembler σ) (sentinel : Int) (instructions : List Instruction)
    (session : Session σ) (number : Nat) : Option (Except EncodingError Bytes) :=
  instructions[number]?.map fun instruction =>
    (instruction.template.extract assembler sentinel
      (sessionBefore assembler sentinel instructions session number)).1

/-- Extracting opcodes one after the other gives the assembler one line for each instruction. -/
theorem foldl_extract_calls (assembler : Assembler σ) (sentinel : Int) (instructions : List Instruction)
    (session : Session σ) :
    (instructions.foldl (fun session instruction =>
      (instruction.template.extract assembler sentinel session).2) session).calls =
      session.calls ++ instructions.map (·.template.assemblyText sentinel) := by
  induction instructions generalizing session with
  | nil => simp
  | cons instruction rest ih =>
    rw [List.foldl_cons, ih, Template.extract_calls, List.append_assoc, List.map_cons]
    rfl

theorem sessionBefore_calls (assembler : Assembler σ) (sentinel : Int) (instructions : List Instruction)
    (session : Session σ) (number : Nat) :
    (sessionBefore assembler sentinel instructions session number).calls =
      session.calls ++ (instructions.take number).map (·.template.assemblyText sentinel) :=
  foldl_extract_calls assembler sentinel (instructions.take number) session

/-- The first instruction decides whether there is a run over the others. -/
theorem inOrder_cons (assembler : Assembler σ) (sentinel : Int) (instruction : Instruction)
    (rest : List Instruction) (session : Session σ) :
    inOrder assembler sentinel (instruction :: rest) session =
      match (instruction.template.extract assembler sentinel session).1 with
      | .error e => (.error e, (instruction.template.extract assembler sentinel session).2)
      | .ok opcode =>
        let (result, after) :=
          inOrder assembler sentinel rest (instruction.template.extract assembler sentinel session).2
        (result.map ({ instruction with opcode } :: ·), after) := by
  rw [inOrder, one]
  obtain ⟨result, after⟩ := instruction.template.extract assembler sentinel session
  cases result <;> rfl

/-- Once the first instruction has had its turn, the others are numbered one less. -/
theorem extraction_cons_succ (assembler : Assembler σ) (sentinel : Int) (instruction : Instruction)
    (rest : List Instruction) (session : Session σ) (number : Nat) :
    extraction assembler sentinel (instruction :: rest) session (number + 1) =
      extraction assembler sentinel rest (instruction.template.extract assembler sentinel session).2 number := by
  simp [extraction, sessionBefore]

theorem extraction_cons_zero (assembler : Assembler σ) (sentinel : Int) (instruction : Instruction)
    (rest : List Instruction) (session : Session σ) :
    extraction assembler sentinel (instruction :: rest) session 0 =
      some (instruction.template.extract assembler sentinel session).1 := by
  simp [extraction, sessionBefore]

/-- If all instructions can be encoded, each in its turn, they are all compiled. -/
theorem inOrder_eq_ok {assembler : Assembler σ} {sentinel : Int} {instructions : List Instruction}
    {session : Session σ} {opcodes : List Bytes} (hlength : opcodes.length = instructions.length)
    (hall : ∀ number opcode, opcodes[number]? = some opcode →
      extraction assembler sentinel instructions session number = some (.ok opcode)) :
    ∃ compiled : List CompiledInstruction, compiled.map (·.toInstruction) = instructions ∧
      compiled.map (·.opcode) = opcodes ∧
      inOrder assembler sentinel instructions session =
        (.ok compiled, sessionBefore assembler sentinel instructions session instructions.length) := by
  induction instructions generalizing session opcodes with
  | nil =>
    obtain rfl := List.eq_nil_of_length_eq_zero hlength
    exact ⟨[], rfl, rfl, rfl⟩
  | cons instruction rest ih =>
    obtain ⟨opcode, opcodes, rfl⟩ := List.exists_cons_of_length_eq_add_one hlength
    have hfirst : (instruction.template.extract assembler sentinel session).1 = .ok opcode := by
      simpa only [extraction_cons_zero, Option.some.injEq] using hall 0 opcode rfl
    have hlater : ∀ number opcode, opcodes[number]? = some opcode →
        extraction assembler sentinel rest (instruction.template.extract assembler sentinel session).2
          number = some (.ok opcode) := by
      intro number opcode hopcode
      rw [← extraction_cons_succ]
      exact hall (number + 1) opcode (by simpa using hopcode)
    obtain ⟨compiled, hinstructions, hopcodes, hrest⟩ := ih (by simpa using hlength) hlater
    refine ⟨{ instruction with opcode } :: compiled, by simp [hinstructions], by simp [hopcodes], ?_⟩
    rw [inOrder_cons, hfirst]
    simp only [hrest, Except.map]
    rfl

/-- The first instruction that cannot be encoded in its turn decides the error, and none after it
    has a turn. -/
theorem inOrder_eq_error {assembler : Assembler σ} {sentinel : Int} {instructions : List Instruction}
    {session : Session σ} {number : Nat} {e : EncodingError}
    (hfails : extraction assembler sentinel instructions session number = some (.error e))
    (hbefore : ∀ earlier < number, ∃ opcode,
      extraction assembler sentinel instructions session earlier = some (.ok opcode)) :
    inOrder assembler sentinel instructions session =
      (.error e, sessionBefore assembler sentinel instructions session (number + 1)) := by
  induction instructions generalizing session number with
  | nil => simp [extraction] at hfails
  | cons instruction rest ih =>
    rw [inOrder_cons]
    cases number with
    | zero =>
      rw [extraction_cons_zero, Option.some.injEq] at hfails
      rw [hfails]
      rfl
    | succ number =>
      obtain ⟨opcode, hopcode⟩ := hbefore 0 (by omega)
      rw [extraction_cons_zero, Option.some.injEq] at hopcode
      rw [extraction_cons_succ] at hfails
      have hrest := ih hfails fun earlier hlt => by
        rw [← extraction_cons_succ]
        exact hbefore (earlier + 1) (by omega)
      rw [hopcode]
      simp only [hrest, Except.map]
      rfl

/-- How many instructions have a turn when they are compiled in order: all up to the first that
    fails. -/
def attempts (assembler : Assembler σ) (sentinel : Int) : List Instruction → Session σ → Nat
  | [], _ => 0
  | instruction :: rest, session =>
    match instruction.template.extract assembler sentinel session with
    | (.error _, _) => 1
    | (.ok _, after) => attempts assembler sentinel rest after + 1

/-- A run in order leaves off after the last instruction that it attempted. -/
theorem inOrder_session (assembler : Assembler σ) (sentinel : Int) (instructions : List Instruction)
    (session : Session σ) :
    (inOrder assembler sentinel instructions session).2 =
      sessionBefore assembler sentinel instructions session
        (attempts assembler sentinel instructions session) := by
  induction instructions generalizing session with
  | nil => rfl
  | cons instruction rest ih =>
    rw [inOrder_cons, attempts]
    have hcons : ∀ number, sessionBefore assembler sentinel (instruction :: rest) session (number + 1) =
        sessionBefore assembler sentinel rest (instruction.template.extract assembler sentinel session).2
          number := fun _ => rfl
    cases hextract : instruction.template.extract assembler sentinel session with
    | mk result after =>
      cases result with
      | error e => simp [hextract, sessionBefore]
      | ok opcode => simp [hcons, hextract, ih]

variable {R : Instruction → Except EncodingError CompiledInstruction → Prop}

/-- Compiling in order comes to the results of all instructions, or to the error of the last that
    had a turn. -/
theorem inOrder_ends {assembler : Assembler σ} {sentinel : Int}
    (hone : ∀ instruction session, R instruction (one assembler sentinel instruction session).1)
    (instructions : List Instruction) (session : Session σ) :
    match (inOrder assembler sentinel instructions session).1 with
    | .ok compiled =>
      List.Forall₂ (fun instruction result => R instruction (.ok result)) instructions compiled ∧
        attempts assembler sentinel instructions session = instructions.length
    | .error e =>
      ∃ number instruction, instructions[number]? = some instruction ∧ R instruction (.error e) ∧
        (∀ earlier < number, ∃ instruction result,
          instructions[earlier]? = some instruction ∧ R instruction (.ok result)) ∧
        attempts assembler sentinel instructions session = number + 1 := by
  induction instructions generalizing session with
  | nil => exact ⟨.nil, rfl⟩
  | cons instruction rest ih =>
    have hfirst := hone instruction session
    have hrest := ih (instruction.template.extract assembler sentinel session).2
    rw [inOrder_cons, attempts]
    rw [one] at hfirst
    cases hextract : instruction.template.extract assembler sentinel session with
    | mk result after =>
      rw [hextract] at hfirst hrest
      cases result with
      | error e => exact ⟨0, instruction, rfl, hfirst, by simp, rfl⟩
      | ok opcode =>
        dsimp only at hrest ⊢
        cases hrun : inOrder assembler sentinel rest after with
        | mk outcome last =>
          rw [hrun] at hrest
          cases outcome with
          | ok compiled => exact ⟨.cons hfirst hrest.1, by rw [hrest.2]; rfl⟩
          | error e =>
            obtain ⟨number, failed, hfailed, herror, hbefore, hattempts⟩ := hrest
            refine ⟨number + 1, failed, by simpa using hfailed, herror, ?_, by rw [hattempts]⟩
            intro earlier hlt
            cases earlier with
            | zero => exact ⟨instruction, _, rfl, hfirst⟩
            | succ earlier =>
              obtain ⟨other, compiled, hother, hok⟩ := hbefore earlier (by omega)
              exact ⟨other, compiled, by simpa using hother, hok⟩

/-- A run in order settles all instructions, or all up to the first that fails. -/
theorem inOrder_settles {assembler : Assembler σ} {sentinel : Int}
    (hone : ∀ instruction session, R instruction (one assembler sentinel instruction session).1)
    (instructions : List Instruction) (session : Session σ) :
    Settles R instructions (List.range (attempts assembler sentinel instructions session))
      (inOrder assembler sentinel instructions session).1 := by
  have hends := inOrder_ends hone instructions session
  cases hrun : (inOrder assembler sentinel instructions session).1 with
  | ok compiled =>
    rw [hrun] at hends
    obtain ⟨hall, hattempts⟩ := hends
    exact ⟨List.nodup_range, by simp [hattempts], hall, by rw [hattempts]⟩
  | error e =>
    rw [hrun] at hends
    obtain ⟨number, instruction, hinstruction, herror, hbefore, hattempts⟩ := hends
    have hlt := (List.getElem?_eq_some_iff.mp hinstruction).1
    refine ⟨List.nodup_range, ?_, number, instruction, hinstruction, herror, hbefore, ?_⟩
    · intro earlier hearlier
      rw [List.mem_range] at hearlier
      omega
    · intro earlier hle
      rw [List.mem_range]
      omega

end Compile

end InstrDecl
