import InstrDecl.Proofs.Toolchain.Scratch
import Mathlib.Logic.Function.Basic
import Mathlib.Logic.Relation

namespace InstrDecl.Interleaving

/-- A call: the assembler, what the program does when this call starts it, and the instruction. -/
structure Call where
  tool : Tool
  program : Program
  instruction : Text

namespace Call

/-- How the start of the program ends when the source file is the one of the call. -/
def start (call : Call) (scratch : Location) : Except RunFault Completion :=
  call.tool.start call.program call.instruction scratch

/-- The call as it runs with no other call beside it. -/
def alone (call : Call) (scratch : Location) (files : FileSystem) : Except EncodingError Assembly × FileSystem :=
  call.tool.assembleIn call.program call.instruction scratch files

/-- The program does not look at the name of the directory it works in. -/
def IgnoresDirectory (call : Call) : Prop :=
  ∀ scratch scratch', call.program (call.tool.invocation scratch) = call.program (call.tool.invocation scratch')

end Call

/-- How far a call has come. From the run on, it is kept how the program ended. -/
inductive Phase
  | waiting
  | made (scratch : Location)
  | written (scratch : Location)
  | ran (scratch : Location) (outcome : Except RunFault Completion)
  | collected (scratch : Location) (outcome : Except RunFault Completion) (result : Except EncodingError Assembly)
  | ended (scratch : Location) (outcome : Except RunFault Completion) (result : Except EncodingError Assembly)

/-- The directory of a call in progress. -/
def Phase.scratch? : Phase → Option Location
  | .waiting | .ended .. => none
  | .made scratch | .written scratch | .ran scratch _ | .collected scratch .. => some scratch

/-- The file system that the calls share, and the phase of each call. -/
structure State (ι : Type) where
  files : FileSystem
  phases : ι → Phase

variable {ι : Type}

/-- No call has begun. -/
def State.initial (files : FileSystem) : State ι :=
  { files, phases := fun _ => .waiting }

/-- A directory for scratch work that was not there at first and now is. -/
structure Reserved (first files : FileSystem) (scratch : Location) : Prop where
  inRoot : ∃ name, scratch = Scratch.root ++ [name]
  isFree : Scratch.isFree first scratch = true
  entry : files.entryAt scratch = some .directory

/-- What stands in the directory of a call, and what the call has come to know. -/
def Phase.Holds (call : Call) (first files : FileSystem) : Phase → Prop
  | .waiting => True
  | .made scratch => Reserved first files scratch ∧ files.entryAt (Scratch.output scratch) = none
  | .written scratch =>
    Reserved first files scratch ∧ files.entryAt (Scratch.output scratch) = none ∧
      Tool.contentAt files (Scratch.source scratch) = .ok (Utf8.encode (call.tool.sourceText call.instruction))
  | .ran scratch outcome =>
    Reserved first files scratch ∧ outcome = call.start scratch ∧
      files.entryAt (Scratch.output scratch) = leftOutput outcome
  | .collected scratch outcome result =>
    Reserved first files scratch ∧ outcome = call.start scratch ∧
      result = call.tool.answer (call.tool.invocation scratch) call.instruction outcome
  | .ended scratch outcome result =>
    ((∃ name, scratch = Scratch.root ++ [name]) ∧ Scratch.isFree first scratch = true) ∧
      outcome = call.start scratch ∧
      result = call.tool.answer (call.tool.invocation scratch) call.instruction outcome

/-- A call in progress has a directory that it made, and that was not there before. -/
theorem Phase.Holds.reserved {call : Call} {first files : FileSystem} {phase : Phase} {scratch : Location}
    (hholds : phase.Holds call first files) (hscratch : phase.scratch? = some scratch) :
    Reserved first files scratch := by
  cases phase with
  | waiting => cases hscratch
  | made | written | ran | collected => cases hscratch; exact hholds.1
  | ended => cases hscratch

/-- Directories side by side in the scratch root share no place. -/
theorem directories_disjoint {scratch other place : Location}
    (hscratch : ∃ name, scratch = Scratch.root ++ [name]) (hother : ∃ name, other = Scratch.root ++ [name])
    (hne : other ≠ scratch) (hplace : other <+: place) : ¬ scratch <+: place := by
  obtain ⟨name, rfl⟩ := hscratch
  obtain ⟨name', rfl⟩ := hother
  intro hboth
  exact hne ((List.prefix_of_prefix_length_le hplace hboth (by simp)).eq_of_length (by simp))

/-- What a phase says is about the directory of its call alone. -/
theorem Phase.Holds.of_sameOutside {call : Call} {first files files' : FileSystem} {phase : Phase}
    {scratch : Location} (hholds : phase.Holds call first files)
    (hroot : ∃ name, scratch = Scratch.root ++ [name]) (hne : phase.scratch? ≠ some scratch)
    (hsame : FileSystem.SameOutside scratch files' files) : phase.Holds call first files' := by
  have hkept : ∀ own, phase.scratch? = some own → ∀ rest,
      files'.entryAt (own ++ rest) = files.entryAt (own ++ rest) := by
    intro own hown rest
    exact hsame.entryAt_eq (directories_disjoint hroot (hholds.reserved hown).inRoot
      (fun heq => hne (heq ▸ hown)) (List.prefix_append own rest))
  have hreserved : ∀ own, phase.scratch? = some own → Reserved first files' own := by
    intro own hown
    obtain ⟨hinRoot, hfree, hentry⟩ := hholds.reserved hown
    exact ⟨hinRoot, hfree, by simpa using (hkept own hown []).trans (by simpa using hentry)⟩
  cases phase with
  | waiting => trivial
  | made own => exact ⟨hreserved own rfl, (hkept own rfl _).trans hholds.2⟩
  | written own =>
    refine ⟨hreserved own rfl, (hkept own rfl _).trans hholds.2.1, ?_⟩
    rw [Tool.contentAt, Scratch.source, hkept own rfl]
    exact hholds.2.2
  | ran own outcome =>
    exact ⟨hreserved own rfl, hholds.2.1, (hkept own rfl _).trans hholds.2.2⟩
  | collected own outcome result => exact ⟨hreserved own rfl, hholds.2⟩
  | ended own outcome result => exact hholds

open Classical in
/-- The place lies in the directory of no call but possibly `i`. -/
noncomputable def State.unusedBut (s : State ι) (i : ι) (place : Location) : Bool :=
  decide (∀ j, j ≠ i → ∀ scratch, (s.phases j).scratch? = some scratch → ¬ scratch <+: place)

open Classical in
/-- The place lies in the directory of no call. -/
noncomputable def State.unused (s : State ι) (place : Location) : Bool :=
  decide (∀ j scratch, (s.phases j).scratch? = some scratch → ¬ scratch <+: place)

/-- The directory is the one of a call in this phase, or nothing is there. -/
def Phase.Accounts (phase : Phase) (scratch : Location) (files : FileSystem) : Prop :=
  phase.scratch? = some scratch ∨ phase.scratch? = none ∧ Scratch.isFree files scratch = true

theorem State.filter_unused {s : State ι} {i : ι} {scratch : Location}
    (haccounts : (s.phases i).Accounts scratch s.files) :
    s.files.entries.filter (s.unused ·.1) =
      s.files.entries.filter fun e => s.unusedBut i e.1 && FileSystem.outside scratch e.1 := by
  refine List.filter_congr fun e he => ?_
  rw [Bool.eq_iff_iff, Bool.and_eq_true, FileSystem.outside_eq_true]
  simp only [State.unused, State.unusedBut, decide_eq_true_eq]
  constructor
  · intro hunused
    refine ⟨fun j _ => hunused j, ?_⟩
    rcases haccounts with hown | ⟨_, hfree⟩
    · exact hunused i scratch hown
    · exact Scratch.isFree_iff.mp hfree e he
  · rintro ⟨hothers, houtside⟩ j own hown
    by_cases hj : j = i
    · subst hj
      rcases haccounts with hsame | ⟨hnone, _⟩
      · rw [hsame] at hown
        exact Option.some.inj hown ▸ houtside
      · rw [hnone] at hown
        cases hown
    · exact hothers j hj own hown

theorem State.unusedBut_congr {s s' : State ι} {i : ι} (hothers : ∀ j, j ≠ i → s'.phases j = s.phases j)
    (place : Location) : s'.unusedBut i place = s.unusedBut i place := by
  rw [Bool.eq_iff_iff]
  simp only [State.unusedBut, decide_eq_true_eq]
  exact forall₂_congr fun j hj => by rw [hothers j hj]

/-- The calls have not disturbed each other: the file system is the first one together with the directories
    in use, no two calls use the same directory, and what stands in the directory of a call is what its
    phase says. -/
structure Isolated (calls : ι → Call) (first : FileSystem) (s : State ι) : Prop where
  current : s.files.current = first.current
  unused : s.files.entries.filter (s.unused ·.1) = first.entries
  distinct : ∀ i j scratch, (s.phases i).scratch? = some scratch → (s.phases j).scratch? = some scratch → i = j
  phase : ∀ i, (s.phases i).Holds (calls i) first s.files

namespace Isolated

variable {calls : ι → Call} {first : FileSystem} {s s' : State ι} {i : ι} {scratch : Location}

theorem initial (calls : ι → Call) (first : FileSystem) : Isolated calls first (.initial first) where
  current := rfl
  unused := by
    refine List.filter_eq_self.mpr fun e _ => ?_
    simp only [State.unused, decide_eq_true_eq]
    rintro j scratch ⟨⟩
  distinct := by rintro i j scratch ⟨⟩
  phase _ := trivial

/-- What was free at some time was free at first. -/
theorem isFree_first (hs : Isolated calls first s) (hfree : Scratch.isFree s.files scratch = true) :
    Scratch.isFree first scratch = true := by
  rw [Scratch.isFree_iff] at hfree ⊢
  intro e he
  rw [← hs.unused] at he
  exact hfree e (List.mem_of_mem_filter he)

/-- A directory that is accounted for by one call is not the one of another. -/
theorem scratch?_ne (hs : Isolated calls first s) (haccounts : (s.phases i).Accounts scratch s.files)
    {j : ι} (hj : j ≠ i) : (s.phases j).scratch? ≠ some scratch := by
  intro hscratch
  rcases haccounts with hown | ⟨_, hfree⟩
  · exact hj (hs.distinct j i scratch hscratch hown)
  · obtain ⟨⟨name, rfl⟩, _, hentry⟩ := (hs.phase j).reserved hscratch
    rw [Scratch.entryAt_of_isFree hfree List.prefix_rfl (by simp)] at hentry
    cases hentry

/-- With no call in progress the file system is the first one. -/
theorem files_eq (hs : Isolated calls first s) (hidle : ∀ i, (s.phases i).scratch? = none) : s.files = first := by
  refine FileSystem.ext ?_ hs.current
  rw [← hs.unused]
  refine (List.filter_eq_self.mpr fun e _ => ?_).symm
  simp only [State.unused, decide_eq_true_eq]
  intro j scratch hscratch
  rw [hidle j] at hscratch
  cases hscratch

end Isolated

variable [DecidableEq ι]

/-- One call enters a phase, and with it the file system changes. -/
def State.advance (s : State ι) (i : ι) (phase : Phase) (files : FileSystem) : State ι :=
  { files, phases := Function.update s.phases i phase }

/-- One step of the call `i`. -/
inductive Step (calls : ι → Call) (i : ι) (s : State ι) : State ι → Prop
  | make (name : Text) (hphase : s.phases i = .waiting)
      (hfree : Scratch.isFree s.files (Scratch.root ++ [name]) = true) :
      Step calls i s (s.advance i (.made (Scratch.root ++ [name]))
        (Tool.makeScratch (Scratch.root ++ [name]) s.files))
  | write (scratch : Location) (hphase : s.phases i = .made scratch) :
      Step calls i s (s.advance i (.written scratch)
        ((calls i).tool.writeSource (calls i).instruction scratch s.files))
  | run (scratch : Location) (hphase : s.phases i = .written scratch) :
      Step calls i s (s.advance i
        (.ran scratch ((calls i).tool.runProgram (calls i).program scratch s.files).1)
        ((calls i).tool.runProgram (calls i).program scratch s.files).2)
  | collect (scratch : Location) (outcome : Except RunFault Completion)
      (hphase : s.phases i = .ran scratch outcome) :
      Step calls i s (s.advance i
        (.collected scratch outcome ((calls i).tool.collect (calls i).instruction scratch outcome s.files)) s.files)
  | remove (scratch : Location) (outcome : Except RunFault Completion) (result : Except EncodingError Assembly)
      (hphase : s.phases i = .collected scratch outcome result) :
      Step calls i s (s.advance i (.ended scratch outcome result) (Tool.removeScratch scratch s.files))

/-- A state that the calls come to from the given file system, their steps interleaved in any way. -/
def Reachable (calls : ι → Call) (files : FileSystem) : State ι → Prop :=
  Relation.ReflTransGen (fun s s' => ∃ i, Step calls i s s') (.initial files)

namespace Isolated

variable {calls : ι → Call} {first : FileSystem} {s s' : State ι} {i : ι} {scratch : Location}

/-- What one call does in its directory keeps all calls isolated. -/
theorem advance (hs : Isolated calls first s) {phase : Phase} {files : FileSystem}
    (hroot : ∃ name, scratch = Scratch.root ++ [name])
    (hbefore : (s.phases i).Accounts scratch s.files) (hafter : phase.Accounts scratch files)
    (hsame : FileSystem.SameOutside scratch files s.files)
    (hholds : phase.Holds (calls i) first files) : Isolated calls first (s.advance i phase files) := by
  have hself : (s.advance i phase files).phases i = phase := Function.update_self ..
  have hothers : ∀ j, j ≠ i → (s.advance i phase files).phases j = s.phases j :=
    fun j hj => Function.update_of_ne hj ..
  -- Only `i` can come to use the directory, and no other call uses it.
  have hnew : ∀ j scratch', ((s.advance i phase files).phases i).scratch? = some scratch' →
      ((s.advance i phase files).phases j).scratch? = some scratch' → j = i := by
    intro j scratch' hi hj
    by_contra hji
    rw [hothers j hji] at hj
    rw [hself] at hi
    rcases hafter with hown | ⟨hnone, _⟩
    · rw [hown] at hi
      exact hs.scratch?_ne hbefore hji (hi ▸ hj)
    · rw [hnone] at hi
      cases hi
  refine ⟨hsame.current.trans hs.current, ?_, ?_, ?_⟩
  · have haccounts : ((s.advance i phase files).phases i).Accounts scratch (s.advance i phase files).files := by
      rw [hself]
      exact hafter
    rw [← hs.unused, State.filter_unused hbefore, State.filter_unused haccounts]
    simp only [State.unusedBut_congr hothers]
    refine hsame.filter_eq (p := fun place => s.unusedBut i place && FileSystem.outside scratch place) ?_
    intro place hplace
    rw [FileSystem.outside_eq_false.mpr hplace, Bool.and_false]
  · intro j k scratch' hj hk
    by_cases hji : j = i
    · subst hji
      exact (hnew k scratch' hj hk).symm
    · by_cases hki : k = i
      · subst hki
        exact hnew j scratch' hk hj
      · rw [hothers j hji] at hj
        rw [hothers k hki] at hk
        exact hs.distinct j k scratch' hj hk
  · intro j
    by_cases hji : j = i
    · subst hji
      rw [hself]
      exact hholds
    · rw [hothers j hji]
      exact (hs.phase j).of_sameOutside hroot (hs.scratch?_ne hbefore hji) hsame

/-- The work of a call in a directory that it keeps. -/
theorem advance_within (hs : Isolated calls first s) {phase : Phase} {files : FileSystem}
    (hbefore : (s.phases i).scratch? = some scratch) (hafter : phase.scratch? = some scratch)
    (hsame : FileSystem.SameOutside scratch files s.files)
    (hholds : phase.Holds (calls i) first files) : Isolated calls first (s.advance i phase files) :=
  hs.advance ((hs.phase i).reserved hbefore).inRoot (.inl hbefore) (.inl hafter) hsame hholds

/-- A step of one call keeps all calls apart. -/
theorem step (hs : Isolated calls first s) (hstep : Step calls i s s') : Isolated calls first s' := by
  have hholds := hs.phase i
  cases hstep with
  | make name hphase hfree =>
    have hne : Scratch.root ++ [name] ≠ [] := by simp
    refine hs.advance ⟨name, rfl⟩ (.inr ⟨by rw [hphase]; rfl, hfree⟩) (.inl rfl)
      (Tool.makeScratch_sameOutside _ _) ⟨⟨⟨name, rfl⟩, hs.isFree_first hfree, ?_⟩, ?_⟩
    · rw [Tool.makeScratch, FileSystem.entryAt_put _ hne, if_pos rfl]
    · rw [Tool.entryAt_makeScratch hne (by simp [Scratch.output])]
      exact Scratch.entryAt_of_isFree hfree (List.prefix_append _ _) (by simp [Scratch.output])
  | write scratch hphase =>
    rw [hphase] at hholds
    obtain ⟨⟨hroot, hfirst, hentry⟩, hnone⟩ := hholds
    refine hs.advance_within (by rw [hphase]; rfl) rfl (Tool.writeSource_sameOutside _ _ _ _)
      ⟨⟨hroot, hfirst, ?_⟩, ?_, Tool.contentAt_writeSource⟩
    · rw [Tool.entryAt_writeSource (by simp [Scratch.source]), hentry]
    · rw [Tool.entryAt_writeSource (Scratch.source_ne_output scratch).symm, hnone]
  | run scratch hphase =>
    rw [hphase] at hholds
    obtain ⟨⟨hroot, hfirst, hentry⟩, hnone, hsource⟩ := hholds
    refine hs.advance_within (by rw [hphase]; rfl) rfl (Tool.runProgram_sameOutside _ _ _ _)
      ⟨⟨hroot, hfirst, ?_⟩, Tool.runProgram_fst hsource, Tool.entryAt_output_runProgram hnone⟩
    rw [Tool.entryAt_runProgram (by simp [Scratch.output]), hentry]
  | collect scratch outcome hphase =>
    rw [hphase] at hholds
    obtain ⟨hreserved, houtcome, houtput⟩ := hholds
    exact hs.advance_within (by rw [hphase]; rfl) rfl (.refl _ _)
      ⟨hreserved, houtcome, Tool.collect_eq_answer houtput⟩
  | remove scratch outcome result hphase =>
    rw [hphase] at hholds
    obtain ⟨⟨hroot, hfirst, _⟩, hended⟩ := hholds
    exact hs.advance hroot (.inl (by rw [hphase]; rfl)) (.inr ⟨rfl, Scratch.isFree_removeScratch scratch s.files⟩)
      (Tool.removeScratch_sameOutside _ _) ⟨⟨hroot, hfirst⟩, hended⟩

/-- Calls are kept apart in every state that steps lead to, in any order. -/
theorem of_reachable (hreach : Reachable calls first s) : Isolated calls first s := by
  induction hreach with
  | refl => exact initial calls first
  | tail _ hstep ih =>
    obtain ⟨i, hstep⟩ := hstep
    exact ih.step hstep

end Isolated

/-- A call that has not ended can take its next step: a place for a scratch directory is always free,
    and the later steps wait for nothing. -/
theorem exists_step (calls : ι → Call) (s : State ι) (i : ι) :
    (∃ scratch outcome result, s.phases i = .ended scratch outcome result) ∨ ∃ s', Step calls i s s' := by
  cases hphase : s.phases i with
  | waiting => exact .inr ⟨_, .make _ hphase (Scratch.isFree_freeNumber s.files 0)⟩
  | made scratch => exact .inr ⟨_, .write scratch hphase⟩
  | written scratch => exact .inr ⟨_, .run scratch hphase⟩
  | ran scratch outcome => exact .inr ⟨_, .collect scratch outcome hphase⟩
  | collected scratch outcome result => exact .inr ⟨_, .remove scratch outcome result hphase⟩
  | ended scratch outcome result => exact .inl ⟨scratch, outcome, result, rfl⟩

/-- Calls do not interfere, however their steps are interleaved. The directories in use are distinct.
    A call that has ended had a directory that was free at first, and it has the answer that it has alone
    there. It has the same answer anywhere, unless its program looks at the name of the directory; only the
    error for an output that cannot be read names another file. In particular there is no output after a
    failure or if the program wrote none. With no call in progress the file system is the first one, and
    a call that has not ended can always go on. -/
theorem calls_do_not_interfere (calls : ι → Call) (first : FileSystem) {s : State ι}
    (hreach : Reachable calls first s) :
    (∀ i j scratch, (s.phases i).scratch? = some scratch → (s.phases j).scratch? = some scratch → i = j) ∧
    (∀ i scratch outcome result, s.phases i = .ended scratch outcome result →
      Scratch.isFree first scratch = true ∧
      (∀ files, Scratch.isFree files scratch = true → (calls i).alone scratch files = (result, files)) ∧
      ((calls i).IgnoresDirectory → ∀ workspace,
        let other := ((calls i).tool.assemble (calls i).program (calls i).instruction workspace).1.result
        other = result ∨ ∃ completion code file file', outcome = .ok completion ∧ completion.status = 0 ∧
          completion.content = .error code ∧ result = .error (.system ⟨code, some file⟩) ∧
          other = .error (.system ⟨code, some file'⟩)) ∧
      (∀ completion, outcome = .ok completion → completion.output = none ∨ completion.status ≠ 0 →
        ∃ assembly, result = .ok assembly ∧ assembly.output = [])) ∧
    ((∀ i, (s.phases i).scratch? = none) → s.files = first) ∧
    (∀ i, (∃ scratch outcome result, s.phases i = .ended scratch outcome result) ∨ ∃ s', Step calls i s s') := by
  have hs := Isolated.of_reachable hreach
  refine ⟨hs.distinct, ?_, hs.files_eq, exists_step calls s⟩
  intro i scratch outcome result hphase
  have hholds := hs.phase i
  rw [hphase] at hholds
  obtain ⟨⟨⟨name, rfl⟩, hfree⟩, rfl, rfl⟩ := hholds
  refine ⟨hfree, ?_, ?_, ?_⟩
  · intro files hfiles
    exact Prod.ext (Tool.assembleIn_fst (by simp) hfiles) (Tool.assembleIn_snd hfiles)
  · intro hignores workspace other
    have hsame : (calls i).tool.start (calls i).program (calls i).instruction
        (Scratch.directory (Scratch.freeNumber workspace.files workspace.scratchCount)) =
          (calls i).start (Scratch.root ++ [name]) := by
      rw [Call.start, Tool.start, Tool.start, hignores]
    have hother := (calls i).tool.assemble_result (calls i).program (calls i).instruction workspace
    dsimp only at hother
    rw [hsame] at hother
    rcases (calls i).tool.answer_eq_or (calls i).instruction ((calls i).start (Scratch.root ++ [name])) _ _ with
      hanswer | ⟨completion, code, hending, hstatus, hcontent, hanswer⟩
    · exact .inl (hother.trans hanswer)
    · exact .inr ⟨completion, code, _, _, hending, hstatus, hcontent, hanswer _, hother.trans (hanswer _)⟩
  · intro completion houtcome hnothing
    rw [houtcome]
    by_cases hstatus : completion.status = 0
    · have hnone := hnothing.resolve_right (not_not_intro hstatus)
      have hcontent : completion.content = .ok [] := by rw [Completion.content, hnone]; rfl
      exact ⟨_, Tool.answer_of_readable hstatus hcontent, rfl⟩
    · exact ⟨_, Tool.answer_of_failed hstatus, rfl⟩

/-- Two calls on one file system, in which the first succeeds and the second fails, each after it
    has written an output file. -/
def successAndFailure (failing : Bool) : Call where
  tool := .default
  program _ _ := .ok { status := if failing then 1 else 0, stderr := [], output := some (.file [0x90]) }
  instruction := "nop"

/-- The second call begins when the first has written its source file and ends before the first
    reads its output file. -/
theorem calls_do_not_interfere_nested :
    ∃ s : State Bool, Reachable successAndFailure ⟨[], []⟩ s ∧ s.files = ⟨[], []⟩ ∧
      (∃ scratch outcome assembly, s.phases true = .ended scratch outcome (.ok assembly) ∧ assembly.output = []) ∧
      ∃ scratch outcome assembly, s.phases false = .ended scratch outcome (.ok assembly) ∧
        assembly.output = [0x90] := by
  have h : Reachable successAndFailure ⟨[], []⟩ (.initial ⟨[], []⟩) := .refl
  have h := h.tail ⟨false, .make "first" rfl (by decide)⟩
  have h := h.tail ⟨false, .write _ rfl⟩
  have h := h.tail ⟨true, .make "second" rfl (by decide)⟩
  have h := h.tail ⟨true, .write _ rfl⟩
  have h := h.tail ⟨false, .run _ rfl⟩
  have h := h.tail ⟨true, .run _ rfl⟩
  have h := h.tail ⟨true, .collect _ _ rfl⟩
  have h := h.tail ⟨true, .remove _ _ _ rfl⟩
  have h := h.tail ⟨false, .collect _ _ rfl⟩
  have h := h.tail ⟨false, .remove _ _ _ rfl⟩
  obtain ⟨-, hended, hidle, -⟩ := calls_do_not_interfere successAndFailure ⟨[], []⟩ h
  refine ⟨_, h, hidle (by decide), ?_, ?_⟩
  · obtain ⟨-, -, -, hnothing⟩ := hended true _ _ _ rfl
    obtain ⟨assembly, hassembly, houtput⟩ := hnothing _ rfl (.inr (by decide))
    exact ⟨_, _, assembly, congrArg _ hassembly, houtput⟩
  · obtain ⟨-, halone, -⟩ := hended false _ _ _ rfl
    exact ⟨_, _, _, congrArg _ (congrArg Prod.fst (halone ⟨[], []⟩ (by decide))).symm, rfl⟩

end InstrDecl.Interleaving
