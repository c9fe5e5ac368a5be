import InstrDecl.Proofs.InstructionList.Lines
import Mathlib.Data.List.DropRight

namespace InstrDecl.InstructionList

/-- These are the templates of the text: lines that are ended, and one without an end exactly if the
    text ends inside a line. -/
structure Templates (text : Text) (lines : List (Text × LineEnd)) (last : Option Text) : Prop where
  split_eq : split text = lines.map (·.1) ++ last.toList
  isSome_last_iff : last.isSome = true ↔ text ≠ [] ∧ text.getLast? ≠ some '\n'

/-- Some choice of line ends makes the text of its templates. -/
def Restorable (text : Text) : Prop :=
  ∃ lines last, Templates text lines last ∧ text = written lines ++ last.getD []

/-- The end of a line that was read up to its newline. -/
def LineEnd.ofLine (line : Text) : LineEnd :=
  if line.getLast? = some '\r' then returnNewline else newline

theorem dropReturn_append_singleton {line : Text} (hline : line.getLast? = some '\r') :
    dropReturn line ++ ['\r'] = line := by
  rw [dropReturn, if_pos hline]
  exact List.dropLast_append_getLast? '\r' hline

/-- A line is its template and the mark that was chosen for it. -/
theorem dropReturn_append_mark_ofLine (line : Text) : dropReturn line ++ (LineEnd.ofLine line).mark = line := by
  unfold LineEnd.ofLine
  split
  · next hreturn => exact dropReturn_append_singleton hreturn
  · next hreturn => rw [LineEnd.mark, List.append_nil, dropReturn_of_ne hreturn]

/-- The lines of a text, each with the end that was taken from it. -/
def withEnds (lines : List Text) : List (Text × LineEnd) :=
  lines.map fun line => (dropReturn line, .ofLine line)

/-- With the chosen marks, the templates are written as the lines that they were read from. -/
theorem written_withEnds (lines : List Text) : written (withEnds lines) = ended lines := by
  rw [written_eq_ended, withEnds, List.map_map]
  congr 1
  exact (List.map_congr_left fun line _ => dropReturn_append_mark_ofLine line).trans (List.map_id lines)

theorem getLast?_ended_ne (lines : List Text) : (ended lines).getLast? ≠ some '\r' := by
  rcases List.eq_nil_or_concat' lines with rfl | ⟨earlier, line, rfl⟩
  · decide
  · simp [ended]

/-- What follows the last newline. -/
theorem rtakeWhile_ended_append (lines : List Text) {last : Text} (hlast : '\n' ∉ last) :
    (ended lines ++ last).rtakeWhile (· != '\n') = last := by
  have hkept : ∀ c ∈ last.reverse, (c != '\n') = true := by
    intro c hc
    rw [bne_iff_ne]
    rintro rfl
    exact hlast (List.mem_reverse.mp hc)
  have hended : (ended lines).reverse.takeWhile (· != '\n') = [] := by
    rcases List.eq_nil_or_concat' lines with rfl | ⟨earlier, line, rfl⟩
    · rfl
    · simp [ended]
  rw [List.rtakeWhile, List.reverse_append, List.takeWhile_append_of_pos hkept, hended, List.append_nil,
    List.reverse_reverse]

/-- The templates of a text are its lines without the chosen marks. -/
theorem templates_withEnds {lines : List Text} {last : Text} (hlines : ∀ line ∈ lines, '\n' ∉ line)
    (hlast : '\n' ∉ last) :
    Templates (ended lines ++ last) (withEnds lines) (if last = [] then none else some (dropReturn last)) := by
  constructor
  · rw [split_ended_append hlines hlast, withEnds, List.map_map]
    congr 1
    split <;> rfl
  · rw [ends_inside_line_iff hlast]
    split <;> simpa

/-- Nothing is missing from the templates and their ends but a carriage return at the end of the text. -/
theorem ended_append_eq_written (lines : List Text) (last : Text) :
    ended lines ++ last =
      written (withEnds lines) ++ (if last = [] then none else some (dropReturn last)).getD [] ++
        if (ended lines ++ last).getLast? = some '\r' then ['\r'] else [] := by
  rw [written_withEnds]
  by_cases hempty : last = []
  · subst hempty
    rw [List.append_nil, if_neg (getLast?_ended_ne lines)]
    simp
  · rw [List.getLast?_append_of_ne_nil _ hempty, if_neg hempty, Option.getD_some, List.append_assoc]
    congr 1
    split
    · next hreturn => exact (dropReturn_append_singleton hreturn).symm
    · next hreturn => rw [dropReturn_of_ne hreturn, List.append_nil]

/-- A text that can be restored does not end with a carriage return: the last template is all that
    follows the last newline. -/
theorem Restorable.getLast?_ne {text : Text} (hrestorable : Restorable text) : text.getLast? ≠ some '\r' := by
  obtain ⟨lines, last, ⟨hsplit, hsome⟩, htext⟩ := hrestorable
  obtain ⟨lines', last', hparts, hlines', hlast'⟩ := exists_ended_append text
  intro hreturn
  have hne : last' ≠ [] := by
    rintro rfl
    rw [hparts, List.append_nil] at hreturn
    exact getLast?_ended_ne lines' hreturn
  obtain ⟨template, rfl⟩ : ∃ template, last = some template := by
    rw [← Option.isSome_iff_exists, hsome, hreturn, hparts]
    exact ⟨List.append_ne_nil_of_right_ne_nil _ hne, by decide⟩
  have htemplate : template = dropReturn last' := by
    rw [hparts, split_ended_append hlines' hlast', if_neg hne, Option.toList_some] at hsplit
    exact (List.singleton_inj.mp (List.append_inj_right' hsplit rfl)).symm
  have hwhole : template = last' := by
    have hnewline : '\n' ∉ template := htemplate ▸ newline_not_mem_dropReturn hlast'
    rw [← rtakeWhile_ended_append lines' hlast', ← hparts, htext, written_eq_ended]
    exact (rtakeWhile_ended_append _ hnewline).symm
  have hlast : last'.getLast? = some '\r' := by
    rwa [hparts, List.getLast?_append_of_ne_nil _ hne] at hreturn
  have hlength := congrArg List.length (dropReturn_append_singleton hlast)
  rw [← htemplate, hwhole, List.length_append, List.length_singleton] at hlength
  omega

/-- Reading a list removes the line ends, and a carriage return at the end of the text. So a text is
    restored by putting line ends after its templates, after the last one exactly if the text ends
    with a newline, if and only if it does not end with a carriage return. -/
theorem split_removes_line_ends (text : Text) :
    (Restorable text ↔ text.getLast? ≠ some '\r') ∧
    ∃ lines last, Templates text lines last ∧
      text = written lines ++ last.getD [] ++ if text.getLast? = some '\r' then ['\r'] else [] := by
  obtain ⟨lines, last, rfl, hlines, hlast⟩ := exists_ended_append text
  have htemplates := templates_withEnds hlines hlast
  have hwritten := ended_append_eq_written lines last
  refine ⟨⟨Restorable.getLast?_ne, fun hreturn => ⟨_, _, htemplates, ?_⟩⟩, _, _, htemplates, hwritten⟩
  rwa [if_neg hreturn, List.append_nil] at hwritten

/-- A carriage return at the end of a text ends no line, and it is lost. -/
theorem return_at_end_lost : split "ret\r" = [("ret" : Text)] ∧ ¬ Restorable "ret\r" :=
  ⟨by decide, fun hrestorable => hrestorable.getLast?_ne (by decide)⟩

end InstrDecl.InstructionList
