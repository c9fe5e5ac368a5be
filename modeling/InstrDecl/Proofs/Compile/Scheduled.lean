import InstrDecl.Proofs.Compile.InOrder
import InstrDecl.Proofs.Pool.Settled
import InstrDecl.Proofs.Template.Parse
import InstrDecl.Proofs.Traversal

namespace InstrDecl

variable {σ : Type}

/-- An assembler that answers a line in the same way at any time, whatever it does to its state. -/
def Assembler.steady (reply : Text → Reply) (next : Text → σ → σ) : Assembler σ :=
  fun line state => (reply line, next line state)

/-- The opcode bytes of a template, read off the answer to its line. -/
def Template.opcodeFrom (template : Template) (reply : Text → Reply) (sentinel : Int) :
    Except EncodingError Bytes :=
  match (reply (template.assemblyText sentinel)).result with
  | .error e => .error e
  | .ok answer => (template.opcode sentinel answer).1

/-- If the answers are fixed, then so is the opcode, whatever happened in the session before. -/
theorem Template.extract_steady (template : Template) (reply : Text → Reply) (next : Text → σ → σ)
    (sentinel : Int) (session : Session σ) :
    (template.extract (.steady reply next) sentinel session).1 = template.opcodeFrom reply sentinel := by
  simp only [Template.extract, Template.opcodeFrom, Session.call, Assembler.steady]
  cases (reply (template.assemblyText sentinel)).result <;> rfl

namespace Compile

/-- What compiling a list of templates may come to with `jobs` workers, where a pool takes its steps
    under any schedule until nothing can happen any more. The numbers are those of the instructions
    that were assembled, in order. -/
inductive Yields (assembler : Assembler σ) (jobs sentinel : Int) (sources : List Text) (session : Session σ) :
    List Nat → Except CompileError (List CompiledInstruction) × Session σ → Prop
  | rejected {e : TemplateError} (hderive : Instruction.deriveAll sources = .error e) :
      Yields assembler jobs sentinel sources session [] (.error (.template e), session)
  | inOrder {instructions : List Instruction} (hderive : Instruction.deriveAll sources = .ok instructions)
      (hsingle : jobs ≤ 1 ∨ instructions.length ≤ 1) :
      Yields assembler jobs sentinel sources session
        (List.range (attempts assembler sentinel instructions (session.note [.derived instructions.length])))
        (conclude (inOrder assembler sentinel instructions (session.note [.derived instructions.length])))
  | pooled {instructions : List Instruction} {schedule : List Pool.Event}
      {pool : Pool Instruction EncodingError CompiledInstruction} {after : Session σ}
      (hderive : Instruction.deriveAll sources = .ok instructions)
      (hjobs : 1 < jobs) (hseveral : 1 < instructions.length)
      (hplay : Pool.play jobs.toNat (one assembler sentinel) schedule (Pool.new instructions)
        (session.note [.derived instructions.length]) = some (pool, after))
      (hhalted : Pool.Halted jobs.toNat (one assembler sentinel) pool after) :
      Yields assembler jobs sentinel sources session pool.done (conclude (pool.reader.outcome, after))

/-- The run that is carried out is one of these. -/
theorem exists_yields_templates (assembler : Assembler σ) (jobs sentinel : Int) (sources : List Text)
    (session : Session σ) :
    ∃ order, Yields assembler jobs sentinel sources session order
      (templates assembler jobs sentinel sources session) := by
  unfold templates
  cases hderive : Instruction.deriveAll sources with
  | error e => exact ⟨[], .rejected hderive⟩
  | ok instructions =>
    dsimp only
    split
    · next hsingle => exact ⟨_, .inOrder hderive (by simpa using hsingle)⟩
    · next hseveral =>
      have hboth : 1 < jobs ∧ 1 < instructions.length := by simpa using hseveral
      obtain ⟨schedule, hplay, hhalted⟩ := Pool.exists_play_runFor jobs.toNat
        (one assembler sentinel) (Pool.new instructions) (session.note [.derived instructions.length])
        (Nat.le_of_eq (Pool.stepsLeft_new instructions))
      exact ⟨_, .pooled hderive hboth.1 hboth.2 hplay hhalted⟩

theorem conclude_fst (run : Except EncodingError (List CompiledInstruction) × Session σ) :
    (conclude run).1 = run.1.mapError .encoding := by
  obtain ⟨outcome, session⟩ := run
  cases outcome <;> rfl

theorem conclude_calls (run : Except EncodingError (List CompiledInstruction) × Session σ) :
    (conclude run).2.calls = run.2.calls := by
  obtain ⟨outcome, session⟩ := run
  cases outcome <;> rfl

variable {R : Instruction → Except EncodingError CompiledInstruction → Prop}
variable {assembler : Assembler σ} {jobs sentinel : Int} {sources : List Text} {session : Session σ}
variable {instructions : List Instruction} {order : List Nat}
variable {last : Except CompileError (List CompiledInstruction) × Session σ}

/-- If a template is rejected then nothing is assembled, under any schedule. -/
theorem Yields.of_rejected {e : TemplateError}
    (hyields : Yields assembler jobs sentinel sources session order last)
    (hrejected : Instruction.deriveAll sources = .error e) :
    order = [] ∧ last = (.error (.template e), session) := by
  cases hyields with
  | rejected hderive =>
    rw [hrejected] at hderive
    cases hderive
    exact ⟨rfl, rfl⟩
  | inOrder hderive _ | pooled hderive _ _ _ _ =>
    rw [hrejected] at hderive
    cases hderive

/-- Once the templates are read, the instructions are settled under every schedule. -/
theorem Yields.settles
    (hone : ∀ instruction session, R instruction (one assembler sentinel instruction session).1)
    (hyields : Yields assembler jobs sentinel sources session order last)
    (hderive : Instruction.deriveAll sources = .ok instructions) :
    ∃ outcome, Settles R instructions order outcome ∧ last.1 = outcome.mapError .encoding := by
  cases hyields with
  | rejected hrejected =>
    rw [hderive] at hrejected
    cases hrejected
  | inOrder hderive' hsingle =>
    rw [hderive] at hderive'
    cases hderive'
    exact ⟨_, inOrder_settles hone instructions _, conclude_fst _⟩
  | pooled hderive' hjobs hseveral hplay hhalted =>
    rw [hderive] at hderive'
    cases hderive'
    have hworkers : 0 < jobs.toNat := by omega
    exact ⟨_, (Pool.sound_of_play hone hplay).settles hworkers hhalted, conclude_fst _⟩

/-- The lines that the assembler was given are those of the instructions that were assembled. -/
theorem Yields.calls (hyields : Yields assembler jobs sentinel sources session order last)
    (hderive : Instruction.deriveAll sources = .ok instructions) :
    last.2.calls = session.calls ++
      (order.filterMap (instructions[·]?)).map (·.template.assemblyText sentinel) := by
  cases hyields with
  | rejected hrejected =>
    rw [hderive] at hrejected
    cases hrejected
  | inOrder hderive' hsingle =>
    rw [hderive] at hderive'
    cases hderive'
    rw [conclude_calls, inOrder_session, sessionBefore_calls, filterMap_range_getElem?]
    rfl
  | @pooled _ _ pool _ hderive' hjobs hseveral hplay hhalted =>
    rw [hderive] at hderive'
    cases hderive'
    have hsound : Pool.Sound (fun _ _ => True) _ _ _ _ _ := Pool.sound_of_play (fun _ _ => trivial) hplay
    rw [conclude_calls, hsound.world]
    exact foldl_extract_calls assembler sentinel (pool.done.filterMap (instructions[·]?)) _

/-- The instruction of a number is the one that the template of the number describes. -/
theorem derive_of_getElem? {number : Nat} {instruction : Instruction}
    (hderive : Instruction.deriveAll sources = .ok instructions)
    (hinstruction : instructions[number]? = some instruction) :
    ∃ source, sources[number]? = some source ∧ Instruction.derive source = .ok instruction := by
  obtain ⟨hlength, hall⟩ := List.forall₂_iff_get.mp (mapM_eq_ok_iff.mp hderive)
  obtain ⟨hlt, rfl⟩ := List.getElem?_eq_some_iff.mp hinstruction
  exact ⟨_, List.getElem?_eq_getElem (hlength ▸ hlt), hall number (hlength ▸ hlt) hlt⟩

/-- The lines that the assembler was given, each with the number of its template. -/
theorem Yields.exists_lines (hyields : Yields assembler jobs sentinel sources session order last) :
    ∃ lines, last.2.calls = session.calls ++ lines ∧
      List.Forall₂ (fun number line => ∃ source template, sources[number]? = some source ∧
        Template.parse source = .ok template ∧ line = template.assemblyText sentinel) order lines := by
  cases hderive : Instruction.deriveAll sources with
  | error e =>
    obtain ⟨rfl, rfl⟩ := hyields.of_rejected hderive
    exact ⟨[], (List.append_nil _).symm, .nil⟩
  | ok instructions =>
    obtain ⟨_, hsettles, _⟩ : ∃ outcome, Settles (fun _ _ => True) instructions order outcome ∧ _ :=
      hyields.settles (fun _ _ => trivial) hderive
    refine ⟨_, hyields.calls hderive, ?_⟩
    rw [List.forall₂_map_right_iff]
    refine (forall₂_filterMap_getElem? hsettles.within).imp fun number instruction hinstruction => ?_
    obtain ⟨source, hsource, hread⟩ := derive_of_getElem? hderive hinstruction
    exact ⟨source, _, hsource, (Instruction.derive_eq_ok_iff.mp hread).1, rfl⟩

/-- What an instruction comes to when the answers of the assembler are fixed. -/
def Answered (reply : Text → Reply) (sentinel : Int) (instruction : Instruction)
    (result : Except EncodingError CompiledInstruction) : Prop :=
  result = (instruction.template.opcodeFrom reply sentinel).map fun opcode => { instruction with opcode }

theorem answered_one (reply : Text → Reply) (next : Text → σ → σ) (sentinel : Int)
    (instruction : Instruction) (session : Session σ) :
    Answered reply sentinel instruction (one (.steady reply next) sentinel instruction session).1 := by
  rw [Answered, ← Template.extract_steady _ _ next sentinel session]
  rfl

/-- An instruction that was compiled has the opcode that the answer to its line gives. -/
theorem Answered.of_ok {reply : Text → Reply} {instruction : Instruction} {compiled : CompiledInstruction}
    (hanswered : Answered reply sentinel instruction (.ok compiled)) :
    compiled.toInstruction = instruction ∧
      instruction.template.opcodeFrom reply sentinel = .ok compiled.opcode := by
  unfold Answered at hanswered
  cases hopcode : instruction.template.opcodeFrom reply sentinel with
  | error e =>
    rw [hopcode] at hanswered
    cases hanswered
  | ok opcode =>
    rw [hopcode] at hanswered
    cases hanswered
    exact ⟨rfl, rfl⟩

theorem Answered.of_error {reply : Text → Reply} {instruction : Instruction} {e : EncodingError}
    (hanswered : Answered reply sentinel instruction (.error e)) :
    instruction.template.opcodeFrom reply sentinel = .error e := by
  unfold Answered at hanswered
  cases hopcode : instruction.template.opcodeFrom reply sentinel with
  | error e' =>
    rw [hopcode] at hanswered
    cases hanswered
    rfl
  | ok opcode =>
    rw [hopcode] at hanswered
    cases hanswered

/-- The number of workers and the order in which they finish do not matter to the outcome. -/
theorem Yields.eq_inOrder {reply : Text → Reply} {next : Text → σ → σ}
    (hyields : Yields (.steady reply next) jobs sentinel sources session order last) :
    last.1 = (templates (.steady reply next) 1 sentinel sources session).1 := by
  obtain ⟨order', hsingle⟩ := exists_yields_templates (.steady reply next) 1 sentinel sources session
  cases hderive : Instruction.deriveAll sources with
  | error e => rw [(hyields.of_rejected hderive).2, (hsingle.of_rejected hderive).2]
  | ok instructions =>
    obtain ⟨outcome, hsettles, hresult⟩ := hyields.settles (answered_one reply next sentinel) hderive
    obtain ⟨outcome', hsettles', hresult'⟩ := hsingle.settles (answered_one reply next sentinel) hderive
    have hsame := hsettles.unique (fun _ _ _ hfirst hsecond => hfirst.trans hsecond.symm) hsettles'
    rw [hresult, hresult', hsame]

/-- No instruction is assembled twice. -/
theorem Yields.order_nodup (hyields : Yields assembler jobs sentinel sources session order last) :
    order.Nodup := by
  cases hderive : Instruction.deriveAll sources with
  | error e =>
    rw [(hyields.of_rejected hderive).1]
    exact List.nodup_nil
  | ok instructions =>
    obtain ⟨outcome, hsettles, _⟩ : ∃ outcome, Settles (fun _ _ => True) instructions order outcome ∧ _ :=
      hyields.settles (fun _ _ => trivial) hderive
    exact hsettles.once

/-- Compiling with several workers comes to what compiling with one does, under every schedule and
    for every assembler whose answers are fixed. Schedules cannot go on for ever, so every one of
    them can be taken to an end, and the run that is carried out takes one. No instruction is
    assembled twice. With results, every instruction was assembled; with an error, it is that of
    the first instruction that fails, and all up to that one were assembled. -/
theorem templates_schedule_independent (reply : Text → Reply) (next : Text → σ → σ) (jobs sentinel : Int)
    (sources : List Text) (session : Session σ) :
    (∃ order, Yields (.steady reply next) jobs sentinel sources session order
      (templates (.steady reply next) jobs sentinel sources session)) ∧
    (∀ instructions schedule pool after,
      Pool.play jobs.toNat (one (.steady reply next) sentinel) schedule (Pool.new instructions) session =
        some (pool, after) → schedule.length ≤ 4 * instructions.length + 2) ∧
    ∀ order result after, Yields (.steady reply next) jobs sentinel sources session order (result, after) →
      result = (templates (.steady reply next) 1 sentinel sources session).1 ∧ order.Nodup ∧
      (∀ e, Instruction.deriveAll sources = .error e → order = [] ∧ after = session) ∧
      ∀ instructions, Instruction.deriveAll sources = .ok instructions →
        after.calls = session.calls ++
          (order.filterMap (instructions[·]?)).map (·.template.assemblyText sentinel) ∧
        (∀ compiled, result = .ok compiled →
          List.Forall₂ (fun instruction compiled => compiled.toInstruction = instruction ∧
            instruction.template.opcodeFrom reply sentinel = .ok compiled.opcode) instructions compiled ∧
          order.Perm (List.range sources.length)) ∧
        (∀ e, result = .error e → ∃ number instruction error, instructions[number]? = some instruction ∧
          e = .encoding error ∧ instruction.template.opcodeFrom reply sentinel = .error error ∧
          (∀ earlier < number, ∃ instruction opcode, instructions[earlier]? = some instruction ∧
            instruction.template.opcodeFrom reply sentinel = .ok opcode) ∧
          ∀ earlier ≤ number, earlier ∈ order) := by
  refine ⟨exists_yields_templates _ jobs sentinel sources session, ?_, ?_⟩
  · intro instructions schedule pool after hplay
    have hbound := Pool.length_add_stepsLeft_le hplay
    rw [Pool.stepsLeft_new] at hbound
    omega
  · intro order result after hyields
    refine ⟨hyields.eq_inOrder, hyields.order_nodup, ?_, fun instructions hderive => ?_⟩
    · intro e hrejected
      obtain ⟨horder, hlast⟩ := hyields.of_rejected hrejected
      exact ⟨horder, congrArg Prod.snd hlast⟩
    obtain ⟨outcome, hsettles, hresult⟩ := hyields.settles (answered_one reply next sentinel) hderive
    refine ⟨hyields.calls hderive, ?_, ?_⟩
    · rintro compiled rfl
      cases outcome with
      | error error => cases hresult
      | ok results =>
        cases hresult
        obtain ⟨hall, hperm⟩ := hsettles.ends
        have hlength := (mapM_eq_ok_iff.mp hderive).length_eq
        exact ⟨hall.imp fun _ _ hanswered => hanswered.of_ok, by rw [hlength]; exact hperm⟩
    · rintro e rfl
      cases outcome with
      | ok results => cases hresult
      | error error =>
        cases hresult
        obtain ⟨number, instruction, hinstruction, herror, hbefore, hassembled⟩ := hsettles.ends
        refine ⟨number, instruction, error, hinstruction, rfl, herror.of_error, ?_, hassembled⟩
        intro earlier hlt
        obtain ⟨other, compiled, hother, hok⟩ := hbefore earlier hlt
        exact ⟨other, compiled.opcode, hother, hok.of_ok.2⟩

/-- An assembler that rejects two instructions, with a status for each. -/
def rejectsRetHlt (line : Text) : Reply :=
  let status := if line = "ret" then 1 else if line = "hlt" then 2 else 0
  { result := .ok { instruction := line, status, output := [0x90], stderr := [] }, notices := [] }

/-- The later of two failing instructions fails first, and the error is that of the earlier one. -/
theorem templates_schedule_independent_late_failure :
    ∃ after, Yields (.steady rejectsRetHlt fun _ _ => ()) 2 0x11 ["nop", "ret", "hlt"] (.new ()) [0, 2, 1]
        (.error (.encoding (.assembly ⟨"ret", .rejected 1 []⟩)), after) ∧
      .error (.encoding (.assembly ⟨"ret", .rejected 1 []⟩)) =
        (templates (.steady rejectsRetHlt fun _ _ => ()) 1 0x11 ["nop", "ret", "hlt"] (.new ())).1 ∧
      after.calls = (["nop", "hlt", "ret"] : List Text) := by
  have hyields := @Yields.pooled Unit (.steady rejectsRetHlt fun _ _ => ()) 2 0x11 ["nop", "ret", "hlt"]
    (.new ()) _ [.start, .start, .finish 0, .start, .finish 2, .finish 1, .read, .read,
      .cancel, .cancel, .cancel, .cancel]
    _ _ rfl (by decide) (by decide) rfl (by intro event; cases event <;> rfl)
  exact ⟨_, hyields, ((templates_schedule_independent _ _ 2 0x11 _ _).2.2 _ _ _ hyields).1, rfl⟩

end Compile

end InstrDecl
