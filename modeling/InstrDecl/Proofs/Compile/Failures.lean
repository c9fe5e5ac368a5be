import InstrDecl.Proofs.Compile.Accounted
import InstrDecl.Proofs.Text.Utf8.Decode

namespace InstrDecl

variable {tool : Tool} {program : Program} {sentinel : Int}

/-- A start whose ending the assembler can be asked about: there is none to start, or it was started, all
    that it printed is text, and after a success its output can be read. -/
def Reported : Except RunFault Completion → Prop
  | .error (.start e) => e.code.number = ErrorCode.notFound.number
  | .error _ => False
  | .ok completion => completion.status = 0 → ∃ output, completion.content = .ok output

/-- What a process has to do for its caller to be told of it. -/
def Process.Reports (process : Process) (invocation : Invocation) (source : Bytes) : Prop :=
  Path.holdsNul invocation.executable = false ∧
    match process invocation source with
    | .error e => e.code.number = ErrorCode.notFound.number
    | .ok termination =>
      (∃ text, termination.stdout = Utf8.encode text) ∧ (∃ text, termination.stderr = Utf8.encode text) ∧
        (termination.status = 0 → ∃ output, Entry.readIfThere termination.output = .ok output)

/-- One byte that is not UTF-8 is enough for a process that ran to go unreported. -/
theorem Process.reported_iff (process : Process) (invocation : Invocation) (source : Bytes) :
    Reported (process.program invocation source) ↔ process.Reports invocation source := by
  unfold Process.program Process.Reports
  cases hnul : Path.holdsNul invocation.executable with
  | true => simp [Reported]
  | false =>
    cases process invocation source with
    | error e => simp [Reported]
    | ok termination =>
      cases hstdout : Utf8.decode termination.stdout with
      | error e =>
        have hnone : ∀ text, termination.stdout ≠ Utf8.encode text := by
          intro text htext
          rw [Utf8.decode_eq_ok_iff.mpr htext] at hstdout
          cases hstdout
        simp [hstdout, hnone, Reported]
      | ok stdout =>
        have hfirst := Utf8.decode_eq_ok_iff.mp hstdout
        cases hstderr : Utf8.decode termination.stderr with
        | error e =>
          have hnone : ∀ text, termination.stderr ≠ Utf8.encode text := by
            intro text htext
            rw [Utf8.decode_eq_ok_iff.mpr htext] at hstderr
            cases hstderr
          simp [hstdout, hstderr, hnone, Reported]
        | ok stderr =>
          have hsecond := Utf8.decode_eq_ok_iff.mp hstderr
          simp only [hstdout, hstderr, Bool.false_eq_true, if_false, Reported, Completion.content, true_and]
          exact ⟨fun hread => ⟨⟨stdout, hfirst⟩, ⟨stderr, hsecond⟩, hread⟩, fun h => h.2.2⟩

/-- The error that a start for a template leads to, by how the start ended. -/
inductive Tool.Failure (tool : Tool) (template : Template) (sentinel : Int) (invocation : Invocation) :
    Except RunFault Completion → EncodingError → Prop
  | notFound {e : SystemError} (hcode : e.code.number = ErrorCode.notFound.number) :
      Failure tool template sentinel invocation (.error (.start e))
        (.assembly ⟨template.assemblyText sentinel, .notFound tool.executable⟩)
  | refused {e : SystemError} (hcode : e.code.number ≠ ErrorCode.notFound.number) :
      Failure tool template sentinel invocation (.error (.start e)) (.system e)
  | nulInCommand : Failure tool template sentinel invocation (.error .nulInCommand) .nulInCommand
  | undecodable {e : Utf8.DecodeError} {output : Option Entry} :
      Failure tool template sentinel invocation (.error (.undecodable e output)) (.undecodable e)
  | unreadable {completion : Completion} {code : ErrorCode} (hstatus : completion.status = 0)
      (hcontent : completion.content = .error code) :
      Failure tool template sentinel invocation (.ok completion)
        (.system ⟨code, some (invocation.file Scratch.outputName)⟩)
  | rejected {completion : Completion} (hstatus : completion.status ≠ 0) :
      Failure tool template sentinel invocation (.ok completion)
        (.assembly ⟨template.assemblyText sentinel, .rejected completion.status completion.stderr⟩)
  | truncated {completion : Completion} {output : Bytes} {kind : OperandKind} (hstatus : completion.status = 0)
      (hcontent : completion.content = .ok output) (hoperand : template.operand? = some kind)
      (hshort : output.length < kind.width) :
      Failure tool template sentinel invocation (.ok completion)
        (.assembly ⟨template.assemblyText sentinel, .truncated output.length kind 0⟩)

/-- The error names the instruction exactly if the ending of the start is reported. -/
theorem Tool.Failure.names_instruction_iff {template : Template} {invocation : Invocation}
    {ending : Except RunFault Completion} {e : EncodingError}
    (hfailure : tool.Failure template sentinel invocation ending e) :
    (∃ fault, e = .assembly ⟨template.assemblyText sentinel, fault⟩) ↔ Reported ending := by
  cases hfailure with
  | notFound hcode => exact ⟨fun _ => hcode, fun _ => ⟨_, rfl⟩⟩
  | refused hcode => exact ⟨fun ⟨_, hnamed⟩ => (by cases hnamed), fun hreported => absurd hreported hcode⟩
  | nulInCommand => exact ⟨fun ⟨_, hnamed⟩ => (by cases hnamed), False.elim⟩
  | undecodable => exact ⟨fun ⟨_, hnamed⟩ => (by cases hnamed), False.elim⟩
  | unreadable hstatus hcontent =>
    refine ⟨fun ⟨_, hnamed⟩ => (by cases hnamed), fun hreported => ?_⟩
    obtain ⟨output, houtput⟩ := hreported hstatus
    rw [hcontent] at houtput
    cases houtput
  | rejected hstatus => exact ⟨fun _ hzero => absurd hzero hstatus, fun _ => ⟨_, rfl⟩⟩
  | truncated hstatus hcontent => exact ⟨fun _ _ => ⟨_, hcontent⟩, fun _ => ⟨_, rfl⟩⟩

/-- With a byte for a sentinel, an answer that gives no opcode bytes was rejected, or it has no room for
    the operand. -/
theorem Template.opcode_eq_error {template : Template} {answer : Assembly} {e : EncodingError}
    (hsentinel : 0 ≤ sentinel ∧ sentinel ≤ 255) (herror : (template.opcode sentinel answer).1 = .error e) :
    (answer.status ≠ 0 ∧
      e = .assembly ⟨template.assemblyText sentinel, .rejected answer.status answer.stderr⟩) ∨
    ∃ kind, answer.status = 0 ∧ template.operand? = some kind ∧ answer.output.length < kind.width ∧
      e = .assembly ⟨template.assemblyText sentinel, .truncated answer.output.length kind 0⟩ := by
  by_cases hstatus : answer.status = 0
  · cases hoperand : template.operand? with
    | none =>
      rw [opcode_of_operand?_eq_none hstatus hoperand] at herror
      cases herror
    | some kind =>
      by_cases hshort : answer.output.length < kind.width
      · rw [opcode_of_truncated hstatus hoperand hshort] at herror
        cases herror
        exact .inr ⟨kind, hstatus, rfl, hshort, rfl⟩
      · obtain ⟨opcode, tail, _, _, hopcode⟩ :=
          exists_opcode_append hstatus hoperand (Nat.not_lt.mp hshort) (.inr hsentinel)
        rw [hopcode] at herror
        cases herror
  · rw [opcode_of_rejected hstatus] at herror
    cases herror
    exact .inl ⟨hstatus, rfl⟩

/-- A start that did not complete is a failure of its own kind, told apart by the cause. -/
theorem Tool.failure_of_runError (tool : Tool) (template : Template) (sentinel : Int) (invocation : Invocation)
    (fault : RunFault) :
    tool.Failure template sentinel invocation (.error fault)
      (tool.runError (template.assemblyText sentinel) fault) := by
  cases fault with
  | start e =>
    by_cases hcode : e.code.number = ErrorCode.notFound.number
    · rw [runError, if_pos hcode]
      exact .notFound hcode
    · rw [runError, if_neg hcode]
      exact .refused hcode
  | nulInCommand => exact .nulInCommand
  | undecodable => exact .undecodable

/-- Whatever a call ended with, if there is no opcode then there is one of the failures to blame. -/
theorem Tool.failure_of_outcome {instruction : Instruction} {invocation : Invocation}
    {ending : Except RunFault Completion} {e : EncodingError} (hsentinel : 0 ≤ sentinel ∧ sentinel ≤ 255)
    (herror : tool.outcome sentinel instruction invocation ending = .error e) :
    tool.Failure instruction.template sentinel invocation ending e := by
  cases ending with
  | error fault =>
    cases herror
    exact tool.failure_of_runError instruction.template sentinel invocation fault
  | ok completion =>
    unfold outcome at herror
    by_cases hstatus : completion.status = 0
    · cases hcontent : completion.content with
      | error code =>
        rw [answer_of_unreadable hstatus hcontent] at herror
        cases herror
        exact .unreadable hstatus hcontent
      | ok output =>
        rw [answer_of_readable hstatus hcontent] at herror
        dsimp only at herror
        have hopcode := eq_error_of_map_eq_error herror
        rcases Template.opcode_eq_error hsentinel hopcode with ⟨hne, _⟩ | ⟨kind, _, hoperand, hshort, rfl⟩
        · exact absurd rfl hne
        · exact .truncated hstatus hcontent hoperand hshort
    · rw [answer_of_failed hstatus] at herror
      dsimp only at herror
      rw [Template.opcode_of_rejected hstatus] at herror
      cases herror
      exact .rejected hstatus

namespace Compile

variable {jobs : Int} {sources : List Text} {workspace : Workspace} {order : List Nat} {e : CompileError}
variable {after : Session Workspace}

/-- However the calls are scheduled, an error is that of a template that cannot be read, or a start for
    one of the templates led to it. -/
theorem Yields.failure (hsentinel : 0 ≤ sentinel ∧ sentinel ≤ 255)
    (hyields : Yields (tool.assemble program) jobs sentinel sources (.new workspace) order (.error e, after)) :
    (∃ source ∈ sources, ∃ error, Template.parse source = .error error ∧ e = .template error) ∨
    ∃ made launch, after.state.launches = workspace.launches ++ made ∧ launch ∈ made ∧
      launch.executable = tool.executable ∧
      ∃ source ∈ sources, ∃ template error, Template.parse source = .ok template ∧
        launch.source = tool.sourceText (template.assemblyText sentinel) ∧
        tool.Failure template sentinel launch.toInvocation (launch.ending program) error ∧ e = .encoding error := by
  cases hderive : Instruction.deriveAll sources with
  | error error =>
    obtain ⟨-, hlast⟩ := hyields.of_rejected hderive
    obtain ⟨_, source, hsource, hfails, _⟩ := exists_of_mapM_eq_error hderive
    cases hlast
    exact .inl ⟨source, List.mem_of_getElem? hsource, error, Instruction.derive_eq_error_iff.mp hfails, rfl⟩
  | ok instructions =>
    obtain ⟨calls, outcome, hlast, _, hlog, hcame, hlaunches, _⟩ := hyields.exists_calls hderive
    cases outcome with
    | ok compiled => cases hlast
    | error error =>
      cases hlast
      obtain ⟨number, ⟨launch, instruction, hmem, hinstruction, houtcome⟩, _⟩ := hcame
      obtain ⟨source, hsource, hread⟩ := derive_of_getElem? hderive hinstruction
      obtain ⟨instruction', hinstruction', hline⟩ := hlog.source number launch hmem
      obtain rfl : instruction = instruction' := Option.some.inj (hinstruction.symm.trans hinstruction')
      obtain ⟨_, _, hinvocation⟩ := hlog.directory _ hmem
      exact .inr ⟨_, launch, hlaunches, List.mem_map.mpr ⟨_, hmem, rfl⟩,
        congrArg Invocation.executable hinvocation, source, List.mem_of_getElem? hsource, _, error,
        (Instruction.derive_eq_ok_iff.mp hread).1, hline, Tool.failure_of_outcome hsentinel houtcome.symm, rfl⟩

/-- What is reported when templates are not compiled, for every assembler and every schedule. An
    assembler that is not there is an error about the instruction, and one that is there and cannot be
    started, for whatever reason, is left as the error of the system. A run fails with the error of a
    template that cannot be read, or with that of a start for one of its templates, which names the
    instruction exactly if the ending of the start is reported. So as long as all endings are, every error
    is about a template or about the instruction of one. The ending of a process is reported exactly if it
    is not there, or if it prints nothing but text and leaves an output that can be read after a success. -/
theorem failures_told_from_starts (tool : Tool) (program : Program) (jobs sentinel : Int) (sources : List Text)
    (workspace : Workspace) (hsentinel : 0 ≤ sentinel ∧ sentinel ≤ 255) :
    (∀ line workspace, ∃ launch : Launch,
      (tool.assemble program line workspace).2.launches = workspace.launches ++ [launch] ∧
      launch.source = tool.sourceText line ∧
      ∀ e, launch.ending program = .error (.start e) →
        (tool.assemble program line workspace).1.result =
          .error (if e.code.number = ErrorCode.notFound.number then .assembly ⟨line, .notFound tool.executable⟩
            else .system e)) ∧
    (∃ order, Yields (tool.assemble program) jobs sentinel sources (.new workspace) order
      (templates (tool.assemble program) jobs sentinel sources (.new workspace))) ∧
    (∀ order e after,
      Yields (tool.assemble program) jobs sentinel sources (.new workspace) order (.error e, after) →
      ((∃ source ∈ sources, ∃ error, Template.parse source = .error error ∧ e = .template error) ∨
        ∃ made launch, after.state.launches = workspace.launches ++ made ∧ launch ∈ made ∧
          ∃ source ∈ sources, ∃ template error, Template.parse source = .ok template ∧
            launch.source = tool.sourceText (template.assemblyText sentinel) ∧
            tool.Failure template sentinel launch.toInvocation (launch.ending program) error ∧
            e = .encoding error ∧
            ((∃ fault, error = .assembly ⟨template.assemblyText sentinel, fault⟩) ↔
              Reported (launch.ending program))) ∧
      ((∀ invocation source, invocation.executable = tool.executable → Reported (program invocation source)) →
        (∃ error, e = .template error) ∨
        ∃ source ∈ sources, ∃ template fault, Template.parse source = .ok template ∧
          e = .encoding (.assembly ⟨template.assemblyText sentinel, fault⟩))) ∧
    ∀ process : Process, program = process.program → ∀ invocation source,
      Reported (program invocation source) ↔ process.Reports invocation source := by
  refine ⟨fun line workspace => ?_, exists_yields_templates _ jobs sentinel sources _,
    fun order e after hyields => ⟨?_, fun hstarts => ?_⟩, ?_⟩
  · obtain ⟨launch, hsource, hresult, hlaunches, _⟩ := tool.exists_launch program line workspace
    refine ⟨launch, hlaunches, hsource, fun e hstart => ?_⟩
    rw [hresult, hstart]
    rfl
  · rcases hyields.failure hsentinel with
      hrejected | ⟨made, launch, hmade, hmem, _, source, hsource, template, error, hparse, hline, hfailure, he⟩
    · exact .inl hrejected
    · exact .inr ⟨made, launch, hmade, hmem, source, hsource, template, error, hparse, hline, hfailure, he,
        hfailure.names_instruction_iff⟩
  · rcases hyields.failure hsentinel with
      ⟨source, _, error, _, rfl⟩ |
        ⟨made, launch, _, _, hexecutable, source, hsource, template, error, hparse, _, hfailure, rfl⟩
    · exact .inl ⟨error, rfl⟩
    · obtain ⟨fault, rfl⟩ := hfailure.names_instruction_iff.mpr (hstarts _ _ hexecutable)
      exact .inr ⟨source, hsource, template, fault, hparse, rfl⟩
  · rintro process rfl
    exact process.reported_iff

/-- An assembler that is not there. -/
def missing : Process :=
  fun invocation _ => .error ⟨.notFound, some invocation.executable⟩

/-- With two workers and an assembler that is not there, the error is that of the first instruction. -/
theorem failures_told_from_starts_missing :
    ∃ order after, Yields (Tool.default.assemble missing.program) 2 0x11 ["ret", "hlt"]
        (.new (.new ⟨[], []⟩)) order (.error (.encoding (.assembly ⟨"ret", .notFound "nasm"⟩)), after) ∧
      ∃ source ∈ (["ret", "hlt"] : List Text), ∃ template fault, Template.parse source = .ok template ∧
        CompileError.encoding (.assembly ⟨"ret", .notFound "nasm"⟩) =
          .encoding (.assembly ⟨template.assemblyText 0x11, fault⟩) := by
  obtain ⟨_, ⟨order, hyields⟩, htold, hprocess⟩ := failures_told_from_starts Tool.default missing.program 2 0x11
    ["ret", "hlt"] (.new ⟨[], []⟩) (by decide)
  have hreported : ∀ invocation source, invocation.executable = Tool.default.executable →
      Reported (missing.program invocation source) := by
    intro invocation source hexecutable
    refine (hprocess missing rfl invocation source).mpr ⟨?_, rfl⟩
    rw [hexecutable]
    decide
  refine ⟨order, _, hyields, ?_⟩
  rcases (htold _ _ _ hyields).2 hreported with ⟨error, herror⟩ | hnames
  · cases herror
  · exact hnames

/-- An assembler that is there, but may not be started. -/
def forbidden : Process :=
  fun invocation _ => .error ⟨.permission, some invocation.executable⟩

/-- An assembler that may not be started is reported neither as a template that cannot be read nor as an
    instruction that could not be assembled, with one worker or two. -/
theorem forbidden_start_names_no_instruction :
    (templates (Tool.default.assemble forbidden.program) 1 0x11 ["ret"] (.new (.new ⟨[], []⟩))).1 =
        .error (.encoding (.system ⟨.permission, some "nasm"⟩)) ∧
      (templates (Tool.default.assemble forbidden.program) 2 0x11 ["ret", "hlt"] (.new (.new ⟨[], []⟩))).1 =
        .error (.encoding (.system ⟨.permission, some "nasm"⟩)) :=
  ⟨rfl, rfl⟩

-- Nor is an assembler that succeeds and prints one byte that is not UTF-8.
example :
    (templates (Tool.default.assemble
        (Process.program fun _ _ => .ok { status := 0, stdout := [], stderr := [0xff], output := some (.file [0xc3]) }))
      1 0x11 ["ret"] (.new (.new ⟨[], []⟩))).1 = .error (.encoding (.undecodable ⟨0, 1, 0xff, .invalidStart⟩)) := rfl

end Compile

end InstrDecl
