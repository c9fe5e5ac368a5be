import InstrDecl.Command.Run
import InstrDecl.Proofs.Compile.Accounted

namespace InstrDecl.Command

/-- A way to compile that takes one of the schedules that there are. -/
def Compiler.Scheduled (compiler : Compiler) : Prop :=
  ∀ assembler jobs sentinel sources session, ∃ order,
    Compile.Yields assembler jobs sentinel sources session order (compiler assembler jobs sentinel sources session)

/-- The file at a path can be read and decoded, and holds these templates. -/
def Lists (files : FileSystem) (path : Path) (templates : List Text) : Prop :=
  ∃ content text, files.read path = .ok content ∧ Utf8.decode content = .ok text ∧
    templates = InstructionList.split text

/-- These are the instructions of all templates, in order. Prototypes are made without any call;
    otherwise each template had one, and its opcode bytes are cut from what that led to. -/
def Complete (verb : Verb) (program : Program) (templates : List Text) (calls : List (Nat × Launch))
    (compiled : List CompiledInstruction) : Prop :=
  List.Forall₂ (fun source i => Instruction.derive source = .ok i.toInstruction) templates compiled ∧
    if verb = .prototypes then calls = []
    else (calls.map (·.1)).Perm (List.range templates.length) ∧
      ∀ number launch, (number, launch) ∈ calls →
        ∃ i, compiled[number]? = some i ∧ i.template.Encodes (launch.ending program) i.opcode

variable {files : FileSystem} {path : Path} {templates : List Text}

/-- A list is loaded exactly if it can be read and decoded, and then its templates are the lines of its
    text. -/
theorem load_eq_ok_iff (hnul : path.hasNul = false) :
    (InstructionList.load files path).1 = .ok templates ↔ Lists files path templates := by
  unfold InstructionList.load InstructionList.readText Lists
  rw [hnul]
  cases hread : files.read path with
  | error code => simp
  | ok content =>
    cases hdecode : Utf8.decode content with
    | error e => simp [hdecode]
    | ok text => simp [hdecode, eq_comm]

theorem Lists.unique {templates' : List Text} (hlists : Lists files path templates)
    (hlists' : Lists files path templates') : templates = templates' := by
  obtain ⟨content, text, hread, hdecode, rfl⟩ := hlists
  obtain ⟨content', text', hread', hdecode', rfl⟩ := hlists'
  rw [hread] at hread'
  cases hread'
  rw [hdecode] at hdecode'
  cases hdecode'
  rfl

variable {compiler : Compiler} {verb : Verb} {settings : Settings} {program : Program} {workspace : Workspace}
variable {calls : List (Nat × Launch)}

/-- Complete instructions can differ in their opcodes only. -/
theorem Complete.map_toInstruction_eq {compiled compiled' : List CompiledInstruction}
    (hcomplete : Complete verb program templates calls compiled)
    (hcomplete' : Complete verb program templates calls compiled') :
    compiled.map (·.toInstruction) = compiled'.map (·.toInstruction) := by
  have hderived := mapM_eq_ok_iff.mpr (List.forall₂_map_right_iff.mpr hcomplete.1)
  rw [mapM_eq_ok_iff.mpr (List.forall₂_map_right_iff.mpr hcomplete'.1)] at hderived
  exact (Except.ok.inj hderived).symm

/-- Only prototypes are complete without calls; for the other commands there is one for every template. -/
theorem Complete.exists_call {compiled : List CompiledInstruction} {number : Nat}
    (hcomplete : Complete verb program templates calls compiled) (hverb : verb ≠ .prototypes)
    (hnumber : number < templates.length) :
    ∃ launch, (number, launch) ∈ calls := by
  have hperm := hcomplete.2
  rw [if_neg hverb] at hperm
  have hmem : number ∈ calls.map (·.1) := hperm.1.mem_iff.mpr (List.mem_range.mpr hnumber)
  obtain ⟨⟨_, launch⟩, hcall, rfl⟩ := List.mem_map.mp hmem
  exact ⟨launch, hcall⟩

/-- The opcode of an instruction is told from the one call for it, so there is only one way to be complete. -/
theorem Complete.unique {compiled compiled' : List CompiledInstruction} (hverb : verb ≠ .prototypes)
    (hcomplete : Complete verb program templates calls compiled)
    (hcomplete' : Complete verb program templates calls compiled') : compiled = compiled' := by
  have hsame := hcomplete.map_toInstruction_eq hcomplete'
  refine List.ext_getElem? fun number => ?_
  by_cases hnumber : number < templates.length
  · obtain ⟨launch, hcall⟩ := hcomplete.exists_call hverb hnumber
    have hcalls := hcomplete.2
    have hcalls' := hcomplete'.2
    rw [if_neg hverb] at hcalls hcalls'
    obtain ⟨i, hi, hencodes⟩ := hcalls.2 number launch hcall
    obtain ⟨i', hi', hencodes'⟩ := hcalls'.2 number launch hcall
    have hinstruction : some i.toInstruction = some i'.toInstruction := by
      have hat := congrArg (·[number]?) hsame
      simpa only [List.getElem?_map, hi, hi', Option.map_some] using hat
    have htemplate := congrArg Instruction.template (Option.some.inj hinstruction)
    rw [← htemplate] at hencodes'
    have hopcode := hencodes.unique hencodes'
    cases i
    cases i'
    cases hinstruction
    cases hopcode
    rw [hi, hi']
  · have hlength := hcomplete.1.length_eq
    have hlength' := hcomplete'.1.length_eq
    rw [List.getElem?_eq_none (by omega), List.getElem?_eq_none (by omega)]

end InstrDecl.Command
