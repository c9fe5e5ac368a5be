import InstrDecl.Proofs.Storage.Entries
import InstrDecl.Proofs.Text.Digits
import InstrDecl.Toolchain.Workspace
import Mathlib.Data.List.Nodup
import Mathlib.Data.List.Perm.Subperm

namespace InstrDecl

namespace Scratch

variable {files : FileSystem} {scratch : Location}

theorem isFree_iff : isFree files scratch = true ↔ ∀ e ∈ files.entries, ¬ scratch <+: e.1 := by
  simp only [isFree, Bool.not_eq_true', List.any_eq_false, List.isPrefixOf_iff_prefix]

/-- The directory in the scratch root that a place lies in. -/
theorem getElem?_below_directory {number : Nat} {location : Location} (hbelow : directory number <+: location) :
    location[1]? = some ("jitgen_" ++ Text.ofNat number) := by
  obtain ⟨rest, rfl⟩ := hbelow
  rfl

/-- More numbers are tried than there are entries, and no entry lies in two of the directories. -/
theorem isFree_freeNumber (files : FileSystem) (count : Nat) :
    isFree files (directory (freeNumber files count)) = true := by
  unfold freeNumber
  cases hfind : ((List.range (files.entries.length + 1)).map (count + ·)).find?
      fun number => isFree files (directory number) with
  | some number => simpa using List.find?_some hfind
  | none =>
    exfalso
    have htaken : ∀ number < files.entries.length + 1, ∃ e ∈ files.entries, directory (count + number) <+: e.1 := by
      intro number hnumber
      have hnot := List.find?_eq_none.mp hfind (count + number)
        (List.mem_map.mpr ⟨number, List.mem_range.mpr hnumber, rfl⟩)
      simpa [isFree_iff] using hnot
    let names := (List.range (files.entries.length + 1)).map fun number =>
      some (("jitgen_" : Text) ++ Text.ofNat (count + number))
    have hnodup : names.Nodup := by
      refine List.nodup_range.map fun number number' hsame => ?_
      have hdigits := Text.ofNat_injective (List.append_cancel_left (Option.some.inj hsame))
      omega
    have hsubset : names ⊆ files.entries.map (·.1[1]?) := by
      intro name hname
      obtain ⟨number, hnumber, rfl⟩ := List.mem_map.mp hname
      obtain ⟨e, he, hbelow⟩ := htaken number (List.mem_range.mp hnumber)
      exact List.mem_map.mpr ⟨e, he, getElem?_below_directory hbelow⟩
    have hlength := (List.subperm_of_subset hnodup hsubset).length_le
    simp only [names, List.length_map, List.length_range] at hlength
    omega

/-- Directories are numbered upwards, so no number comes back. -/
theorem le_freeNumber (files : FileSystem) (count : Nat) : count ≤ freeNumber files count := by
  unfold freeNumber
  cases hfind : ((List.range (files.entries.length + 1)).map (count + ·)).find?
      fun number => isFree files (directory number) with
  | none => exact Nat.le_refl count
  | some number =>
    obtain ⟨offset, _, rfl⟩ := List.mem_map.mp (List.mem_of_find?_eq_some hfind)
    exact Nat.le_add_right count offset

theorem entryAt_of_isFree {place : Location} (hfree : isFree files scratch = true) (hbelow : scratch <+: place)
    (hplace : place ≠ []) : files.entryAt place = none := by
  have hroot : place.isEmpty = false := by simpa using hplace
  rw [FileSystem.entryAt, hroot, if_neg Bool.false_ne_true, List.lookup_eq_none_iff]
  intro e he
  rw [bne_iff_ne]
  intro hsame
  exact isFree_iff.mp hfree e he (hsame ▸ hbelow)

/-- A directory that was removed may be made again. -/
theorem isFree_removeScratch (scratch : Location) (files : FileSystem) :
    isFree (Tool.removeScratch scratch files) scratch = true := by
  rw [isFree_iff]
  intro e he
  exact FileSystem.outside_eq_true.mp (List.mem_filter.mp he).2

theorem source_ne_output (scratch : Location) : source scratch ≠ output scratch := by
  intro hsame
  exact absurd (List.append_cancel_left hsame) (by decide)

end Scratch

namespace Tool

variable {tool : Tool} {program : Program} {instruction : Text} {scratch : Location} {files : FileSystem}

/-- The answer of an assembler, told from how its start ended and what it left behind. -/
def answer (tool : Tool) (invocation : Invocation) (instruction : Text) (ending : Except RunFault Completion) :
    Except EncodingError Assembly :=
  tool.readAnswer invocation instruction ending (Entry.readIfThere (leftOutput ending))

section Answer

variable {invocation : Invocation} {completion : Completion}

/-- The output does not count after a failure. -/
theorem answer_of_failed (hstatus : completion.status ≠ 0) :
    tool.answer invocation instruction (.ok completion) =
      .ok { instruction, status := completion.status, output := [], stderr := completion.stderr } := by
  rw [answer, readAnswer, if_neg hstatus]

/-- A success counts for nothing if what was left in place of the encoding cannot be read. -/
theorem answer_of_unreadable {code : ErrorCode} (hstatus : completion.status = 0)
    (hcontent : completion.content = .error code) :
    tool.answer invocation instruction (.ok completion) =
      .error (.system ⟨code, some (invocation.file Scratch.outputName)⟩) := by
  rw [answer, readAnswer, if_pos hstatus, leftOutput, ← Completion.content, hcontent]

theorem answer_of_readable {output : Bytes} (hstatus : completion.status = 0)
    (hcontent : completion.content = .ok output) :
    tool.answer invocation instruction (.ok completion) =
      .ok { instruction, status := 0, output, stderr := completion.stderr } := by
  rw [answer, readAnswer, if_pos hstatus, leftOutput, ← Completion.content, hcontent, hstatus]

/-- The answer names the scratch directory only in the error for an output that cannot be read. -/
theorem answer_eq_or (tool : Tool) (instruction : Text) (ending : Except RunFault Completion)
    (invocation invocation' : Invocation) :
    tool.answer invocation instruction ending = tool.answer invocation' instruction ending ∨
      ∃ completion code, ending = .ok completion ∧ completion.status = 0 ∧ completion.content = .error code ∧
        ∀ invocation, tool.answer invocation instruction ending =
          .error (.system ⟨code, some (invocation.file Scratch.outputName)⟩) := by
  cases ending with
  | error fault => exact .inl rfl
  | ok completion =>
    by_cases hstatus : completion.status = 0
    · cases hcontent : completion.content with
      | error code =>
        exact .inr ⟨completion, code, rfl, hstatus, hcontent, fun _ => answer_of_unreadable hstatus hcontent⟩
      | ok output =>
        left
        rw [answer_of_readable hstatus hcontent, answer_of_readable hstatus hcontent]
    · left
      rw [answer_of_failed hstatus, answer_of_failed hstatus]

end Answer

/-- How a start of the assembler for an instruction ends. -/
def start (tool : Tool) (program : Program) (instruction : Text) (scratch : Location) :
    Except RunFault Completion :=
  program (tool.invocation scratch) (Utf8.encode (tool.sourceText instruction))

/-- The command line tells the number of the directory. -/
theorem invocation_injective {number number' : Nat}
    (hsame : tool.invocation (Scratch.directory number) = tool.invocation (Scratch.directory number')) :
    number = number' := by
  have htext := congrArg Invocation.directory hsame
  simp only [invocation, Scratch.directory, Location.text, List.flatMap_append, List.flatMap_cons, List.flatMap_nil,
    List.append_nil] at htext
  have hname := (List.cons.inj (List.append_cancel_left htext)).2
  exact Text.ofNat_injective (List.append_cancel_left hname)

/-- The program is given the content of the source file. -/
theorem runProgram_fst {content : Bytes} (hsource : contentAt files (Scratch.source scratch) = .ok content) :
    (tool.runProgram program scratch files).1 = program (tool.invocation scratch) content := by
  rw [runProgram, hsource]
  rfl

/-- A run changes no place but the one of the output file. -/
theorem entryAt_runProgram {other : Location} (hother : other ≠ Scratch.output scratch) :
    FileSystem.entryAt (tool.runProgram program scratch files).2 other = files.entryAt other := by
  unfold runProgram
  dsimp only
  split
  · rw [FileSystem.entryAt_put _ (by simp [Scratch.output]), if_neg hother]
  · rfl

/-- Where no output file was before, there is what the program left. -/
theorem entryAt_output_runProgram (hnone : files.entryAt (Scratch.output scratch) = none) :
    FileSystem.entryAt (tool.runProgram program scratch files).2 (Scratch.output scratch) =
      leftOutput (tool.runProgram program scratch files).1 := by
  unfold runProgram
  dsimp only
  split
  · next entry hleft => rw [FileSystem.entryAt_put _ (by simp [Scratch.output]), if_pos rfl, hleft]
  · next hleft => rw [hnone, hleft]

/-- The answer depends on the files only through what the start itself left. -/
theorem collect_eq_answer {outcome : Except RunFault Completion}
    (houtput : files.entryAt (Scratch.output scratch) = leftOutput outcome) :
    tool.collect instruction scratch outcome files = tool.answer (tool.invocation scratch) instruction outcome := by
  rw [collect, contentAt, houtput]
  rfl

theorem makeScratch_sameOutside (scratch : Location) (files : FileSystem) :
    FileSystem.SameOutside scratch (makeScratch scratch files) files :=
  .of_put files List.prefix_rfl

theorem writeSource_sameOutside (tool : Tool) (instruction : Text) (scratch : Location) (files : FileSystem) :
    FileSystem.SameOutside scratch (tool.writeSource instruction scratch files) files :=
  .of_put files (List.prefix_append scratch _)

/-- A run of the assembler has no effect outside of its directory. -/
theorem runProgram_sameOutside (tool : Tool) (program : Program) (scratch : Location) (files : FileSystem) :
    FileSystem.SameOutside scratch (tool.runProgram program scratch files).2 files := by
  unfold runProgram
  dsimp only
  split
  · exact .of_put files (List.prefix_append scratch _)
  · exact .refl scratch files

theorem removeScratch_sameOutside (scratch : Location) (files : FileSystem) :
    FileSystem.SameOutside scratch (removeScratch scratch files) files :=
  .of_removeTree scratch files

/-- The assembler is given what was written for it. -/
theorem contentAt_writeSource :
    contentAt (tool.writeSource instruction scratch files) (Scratch.source scratch) =
      .ok (Utf8.encode (tool.sourceText instruction)) := by
  rw [contentAt, writeSource, FileSystem.entryAt_put _ (by simp [Scratch.source]), if_pos rfl]
  rfl

theorem entryAt_writeSource {other : Location} (hother : other ≠ Scratch.source scratch) :
    FileSystem.entryAt (tool.writeSource instruction scratch files) other = files.entryAt other := by
  rw [writeSource, FileSystem.entryAt_put _ (by simp [Scratch.source]), if_neg hother]

theorem entryAt_makeScratch {other : Location} (hscratch : scratch ≠ []) (hother : other ≠ scratch) :
    FileSystem.entryAt (makeScratch scratch files) other = files.entryAt other := by
  rw [makeScratch, FileSystem.entryAt_put _ hscratch, if_neg hother]

/-- In a free place the answer is told from how the start of the program ends, whatever else is in
    the file system. -/
theorem assembleIn_fst (hscratch : scratch ≠ []) (hfree : Scratch.isFree files scratch = true) :
    (tool.assembleIn program instruction scratch files).1 =
      tool.answer (tool.invocation scratch) instruction (tool.start program instruction scratch) := by
  have hnone : FileSystem.entryAt (tool.writeSource instruction scratch (makeScratch scratch files))
      (Scratch.output scratch) = none := by
    rw [entryAt_writeSource (Scratch.source_ne_output scratch).symm,
      entryAt_makeScratch hscratch (by simp [Scratch.output])]
    exact Scratch.entryAt_of_isFree hfree (List.prefix_append scratch _) (by simp [Scratch.output])
  have hstart : (tool.runProgram program scratch
      (tool.writeSource instruction scratch (makeScratch scratch files))).1 =
        tool.start program instruction scratch :=
    runProgram_fst contentAt_writeSource
  rw [← hstart]
  exact collect_eq_answer (entryAt_output_runProgram hnone)

/-- A call leaves nothing behind. -/
theorem assembleIn_snd (hfree : Scratch.isFree files scratch = true) :
    (tool.assembleIn program instruction scratch files).2 = files := by
  let finished := (tool.runProgram program scratch
    (tool.writeSource instruction scratch (makeScratch scratch files))).2
  have hsame : FileSystem.SameOutside scratch finished files :=
    ((runProgram_sameOutside tool program scratch _).trans
      (writeSource_sameOutside tool instruction scratch _)).trans (makeScratch_sameOutside scratch files)
  have houtside : ∀ e ∈ files.entries, FileSystem.outside scratch e.1 = true := by
    intro e he
    exact FileSystem.outside_eq_true.mpr (Scratch.isFree_iff.mp hfree e he)
  have hentries : (removeScratch scratch finished).entries = files.entries :=
    hsame.entries.trans (List.filter_eq_self.mpr houtside)
  exact FileSystem.ext hentries hsame.current

theorem assemble_result (tool : Tool) (program : Program) (instruction : Text) (workspace : Workspace) :
    let scratch := Scratch.directory (Scratch.freeNumber workspace.files workspace.scratchCount)
    (tool.assemble program instruction workspace).1.result =
      tool.answer (tool.invocation scratch) instruction (tool.start program instruction scratch) :=
  assembleIn_fst (by simp [Scratch.directory]) (Scratch.isFree_freeNumber _ _)

/-- After a call the files are what they were before it. -/
theorem assemble_files (tool : Tool) (program : Program) (instruction : Text) (workspace : Workspace) :
    (tool.assemble program instruction workspace).2.files = workspace.files :=
  assembleIn_snd (Scratch.isFree_freeNumber _ _)

end Tool

end InstrDecl
