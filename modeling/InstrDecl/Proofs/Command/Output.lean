import InstrDecl.Proofs.Command.Generation
import InstrDecl.Proofs.Command.Request
import InstrDecl.Proofs.Stream

namespace InstrDecl.Command

/-- The place that a path leads to is one where a file can be written. -/
def Writable (files : FileSystem) (path : Path) (location : Location) : Prop :=
  files.resolve path = .ok location ∧ files.writeRefusal? location = none

/-- The text that a command makes of instructions. -/
def Verb.text (verb : Verb) (indent : Text) (compiled : List CompiledInstruction) : Text :=
  (verb.prints indent compiled).flatten

/-- The texts can be delivered: the standard output takes each of them, or the file that was asked for can
    be written. -/
def CanDeliver (stream : Stream) (output : Option Path) (files : FileSystem) (texts : List Text) : Prop :=
  match output with
  | none => stream.Takes [] texts
  | some path => ∃ location, Writable files path location

/-- The text is shown as the outlet has it, which for a pipe is without its control sequences, and no file
    changes; or it is the content of the file that was asked for, and no other place changes. -/
def Delivered (outlet : Outlet) (output : Option Path) (files : FileSystem) (text shown : Text)
    (after : FileSystem) : Prop :=
  match output with
  | none => shown = outlet.rendered text ∧
    (outlet = .pipe → (shown = text ↔ ¬ Text.HoldsControlSequence text)) ∧ after = files
  | some path => shown = [] ∧ ∃ location, Writable files path location ∧
    (∃ entry, after.entryAt location = some entry ∧ entry.content = some (Utf8.encode text)) ∧
    ∀ place, place ≠ location → after.entryAt place = files.entryAt place

/-- A failure never looks like a success. -/
theorem exitCode_ne_zero (diagnostic : Diagnostic) : diagnostic.exitCode ≠ 0 := by
  cases diagnostic <;> simp [Diagnostic.exitCode]

theorem instructionList_resolve (environment : Environment) (assembler : Option Text) (jobs : Option Int) :
    (Settings.resolve environment assembler jobs).1.instructionList = Settings.default.instructionList := rfl

variable {compiler : Compiler} {settings : Settings} {program : Program} {workspace : Workspace}
variable {files : FileSystem} {path : Path} {templates : List Text} {calls : List (Nat × Launch)}

/-- It makes no difference to what is shown that a table is printed in parts. -/
theorem Verb.rendered_text (outlet : Outlet) (verb : Verb) (indent : Text) (compiled : List CompiledInstruction) :
    outlet.rendered (verb.text indent compiled) = (verb.prints indent compiled).flatMap outlet.rendered := by
  have hsingle : ∀ text : Text, outlet.rendered [text].flatten = [text].flatMap outlet.rendered := by simp
  cases verb with
  | encoders => exact hsingle _
  | prototypes => exact hsingle _
  | inspect =>
    refine outlet.rendered_flatten_of_ended fun text htext => ?_
    obtain ⟨line, _, rfl⟩ := List.mem_map.mp htext
    exact ⟨line, rfl⟩

/-- A file is written, or there is no place to write it and nothing happens. -/
theorem write_cases (files : FileSystem) (path : Path) (content : Bytes) :
    (∃ location, Writable files path location ∧
      files.write path content = .ok (files.put location (files.rewritten location content))) ∨
    ((∀ location, ¬ Writable files path location) ∧ ∃ code, files.write path content = .error code) := by
  unfold Writable FileSystem.write
  cases files.resolve path with
  | error code => exact .inr ⟨fun location hlocation => (by cases hlocation.1), code, rfl⟩
  | ok location =>
    cases hrefusal : files.writeRefusal? location with
    | some code =>
      refine .inr ⟨?_, code, by simp [hrefusal]⟩
      rintro other ⟨hlocation, hwritable⟩
      cases hlocation
      rw [hrefusal] at hwritable
      cases hwritable
    | none => exact .inl ⟨location, ⟨rfl, hrefusal⟩, by simp [hrefusal]⟩

/-- The root is a directory, so no file can be written there. -/
theorem Writable.ne_nil {location : Location} (hwritable : Writable files path location) : location ≠ [] := by
  rintro rfl
  cases hwritable.2

/-- Texts are delivered exactly if they can be. If not, what was shown of them stops within one of them. -/
theorem deliver_cases {stream : Stream} {output : Option Path} {texts : List Text}
    (hnul : ∀ path, output = some path → path.hasNul = false)
    (hrendered : stream.outlet.rendered texts.flatten = texts.flatMap stream.outlet.rendered) (workspace : Workspace) :
    (CanDeliver stream output workspace.files texts ∧
      ∃ after shown, deliver stream output texts workspace = (.ok after, shown) ∧
        after.launches = workspace.launches ∧
        Delivered stream.outlet output workspace.files texts.flatten shown after.files) ∨
    (¬ CanDeliver stream output workspace.files texts ∧
      ∃ e shown, deliver stream output texts workspace = (.error e, shown) ∧
        (shown = [] ∨ output = none ∧ stream.StopsWithin [] texts shown)) := by
  cases output with
  | none =>
    rcases stream.printAll_cases [] texts with ⟨htakes, hall⟩ | ⟨shown, fault, hstops, hpart⟩
    · have hdeliver : deliver stream none texts workspace =
          (.ok workspace, texts.flatMap stream.outlet.rendered) := by
        simp only [deliver, hall, List.nil_append]
      refine .inl ⟨htakes, workspace, _, hdeliver, rfl, hrendered.symm, ?_, rfl⟩
      intro hpipe
      rw [← hrendered, hpipe]
      exact Text.plain_eq_self_iff
    · have hdeliver : deliver stream none texts workspace = (.error (.stdout fault), shown) := by
        simp only [deliver, hpart]
      exact .inr ⟨hstops.not_takes, _, shown, hdeliver, .inr ⟨rfl, hstops⟩⟩
  | some path =>
    have hdeliver : deliver stream (some path) texts workspace =
        ((writeOutput workspace.files path texts.flatten).map fun files => { workspace with files }, []) := rfl
    rw [hdeliver, writeOutput, hnul path rfl, if_neg Bool.false_ne_true]
    rcases write_cases workspace.files path (Utf8.encode texts.flatten) with
      ⟨location, hwritable, hwrite⟩ | ⟨hnot, code, hwrite⟩
    · rw [hwrite]
      refine .inl ⟨⟨location, hwritable⟩, _, _, rfl, rfl, rfl, location, hwritable,
        ⟨workspace.files.rewritten location (Utf8.encode texts.flatten), ?_, rfl⟩, ?_⟩
      · rw [FileSystem.entryAt_put _ hwritable.ne_nil, if_pos rfl]
      · intro place hplace
        rw [FileSystem.entryAt_put _ hwritable.ne_nil, if_neg hplace]
    · rw [hwrite]
      exact .inr ⟨fun ⟨location, hwritable⟩ => hnot location hwritable, _, _, rfl, .inl rfl⟩

/-- The run ended with this failure after this was shown, and the workspace is the one before the stage
    that failed. -/
def FailedWith (outcome : Outcome) (e : Failure) (shown : Text) (workspace : Workspace) : Prop :=
  outcome.exitCode = e.diagnostic.exitCode ∧ outcome.stdout = shown ∧ outcome.workspace = workspace

/-- The run ended as the delivery of its texts did. -/
def FollowsDelivery (stream : Stream) (output : Option Path) (texts : List Text) (made : Workspace)
    (outcome : Outcome) : Prop :=
  match deliver stream output texts made with
  | (.error e, shown) => FailedWith outcome e shown made
  | (.ok after, shown) => outcome.exitCode = 0 ∧ outcome.stdout = shown ∧ outcome.workspace = after

/-- The stages of a run: what the list, the texts and the delivery came to decides how it ends. -/
theorem perform_cases (compiler : Compiler) (environment : Environment) (program : Program) (stream : Stream)
    (request : Request) (workspace : Workspace) {outcome : Outcome}
    (hperform : perform compiler environment program stream request workspace = outcome) :
    let settings := (Settings.resolve environment request.assembler request.jobs).1
    (∃ e, (InstructionList.load workspace.files (request.path settings)).1 = .error e ∧
      FailedWith outcome (.list e) [] workspace) ∨
    ∃ templates, (InstructionList.load workspace.files (request.path settings)).1 = .ok templates ∧
      let made := generate compiler request.verb settings program templates workspace
      ((∃ e, made.1 = .error e ∧ FailedWith outcome (.compile e) [] made.2.2) ∨
      ∃ texts, made.1 = .ok texts ∧ FollowsDelivery stream request.output texts made.2.2 outcome) := by
  intro settings
  subst hperform
  cases hload : InstructionList.load workspace.files (request.path settings) with
  | mk result loading =>
    cases result with
    | error e =>
      refine .inl ⟨e, rfl, ?_⟩
      simp [FailedWith, perform, execute, hload, settings, Failure.diagnostic]
    | ok templates =>
      refine .inr ⟨templates, rfl, ?_⟩
      cases hmade : generate compiler request.verb settings program templates workspace with
      | mk result rest =>
        obtain ⟨notices, made⟩ := rest
        cases result with
        | error e =>
          refine .inl ⟨e, rfl, ?_⟩
          simp [FailedWith, perform, execute, hload, hmade, settings, Failure.diagnostic]
        | ok texts =>
          refine .inr ⟨texts, rfl, ?_⟩
          cases hdeliver : deliver stream request.output texts made with
          | mk result shown =>
            cases result <;>
              simp [FollowsDelivery, FailedWith, perform, execute, hload, hmade, hdeliver, settings]

variable {stream : Stream} {request : Request} {outcome : Outcome}

/-- How a run ends whose texts are all there: they are delivered exactly if they can be. -/
def Ended (stream : Stream) (output : Option Path) (files : FileSystem) (texts : List Text)
    (outcome : Outcome) : Prop :=
  (CanDeliver stream output files texts ∧ outcome.exitCode = 0 ∧
    Delivered stream.outlet output files texts.flatten outcome.stdout outcome.workspace.files) ∨
  (¬ CanDeliver stream output files texts ∧ outcome.exitCode ≠ 0 ∧ outcome.workspace.files = files ∧
    (outcome.stdout = [] ∨ output = none ∧ stream.StopsWithin [] texts outcome.stdout))

theorem ended_of_followsDelivery {output : Option Path} {texts : List Text} {made : Workspace}
    (hnul : ∀ path, output = some path → path.hasNul = false)
    (hrendered : stream.outlet.rendered texts.flatten = texts.flatMap stream.outlet.rendered)
    (hfollows : FollowsDelivery stream output texts made outcome) :
    Ended stream output made.files texts outcome ∧ outcome.workspace.launches = made.launches := by
  unfold FollowsDelivery at hfollows
  rcases deliver_cases hnul hrendered made with
    ⟨hcan, after, shown, hdeliver, hkept, hdelivered⟩ | ⟨hnot, e, shown, hdeliver, hshown⟩
  · rw [hdeliver] at hfollows
    obtain ⟨hzero, rfl, rfl⟩ := hfollows
    exact ⟨.inl ⟨hcan, hzero, hdelivered⟩, hkept⟩
  · rw [hdeliver] at hfollows
    obtain ⟨hexit, rfl, rfl⟩ := hfollows
    exact ⟨.inr ⟨hnot, hexit ▸ exitCode_ne_zero _, rfl, hshown⟩, rfl⟩

/-- Where the list is, by default or as asked for, is a path that a file can have. -/
theorem Request.path_hasNul {arguments : List Text} (hline : readLine files arguments = .ok (.run request))
    (environment : Environment) :
    (request.path (Settings.resolve environment request.assembler request.jobs).1).hasNul = false := by
  rw [Request.path, instructionList_resolve]
  cases hlist : request.list with
  | none => decide
  | some path => exact (hasNul_of_readLine hline).1 path hlist

/-- An assembler that knows one instruction. -/
def assemblesRet : Program := fun _ source =>
  if source = Utf8.encode "bits 64\nret\n" then .ok { status := 0, stderr := [], output := some (.file [0xc3]) }
  else .ok { status := 1, stderr := "error", output := none }

/-- A pipe to a reader that knows only the first 256 characters. -/
def narrowPipe : Stream where
  outlet := .pipe
  refuse _ text := if text.all (·.toNat < 256) then none else some ⟨0, .unencodable "no code for a character"⟩

-- A table of which such a reader takes the header, the rule and one row is left at that, and the run fails.
example :
    ∃ outcome, run [] (fun _ _ => .ok { status := 0, stderr := [], output := some (.file [0xc3]) }) narrowPipe
        ["inspect", "x.list"] (.new ⟨[(["x.list"], .file (Utf8.encode "ret\nλ\n"))], []⟩) = .ok outcome ∧
      outcome.exitCode = 3 ∧
      outcome.stdout =
        ("IDENTIFIER  OPERAND         BRANCH  BYTES\n" : Text) ++ List.replicate 43 '-' ++
          ("\nret  -               no      [0xc3]\n" : Text) :=
  ⟨_, rfl, rfl, by decide⟩

end InstrDecl.Command
