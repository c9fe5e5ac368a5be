import InstrDecl.InstructionList
import InstrDecl.Proofs.Text.Split
import Mathlib.Data.List.Basic

namespace InstrDecl.InstructionList

/-- How the end of a line is written. -/
inductive LineEnd
  | newline
  | returnNewline
  deriving DecidableEq, Repr

/-- The characters of a line end. -/
def LineEnd.text : LineEnd → Text
  | newline => ['\n']
  | returnNewline => ['\r', '\n']

/-- A line with this end can be told from its end: a carriage return at the end of the line would be
    taken for a part of a bare newline. -/
def LineEnd.Fits (ending : LineEnd) (line : Text) : Prop :=
  ending = newline → line.getLast? ≠ some '\r'

/-- Lines, each with its end. -/
def written (lines : List (Text × LineEnd)) : Text :=
  lines.flatMap fun (line, ending) => line ++ ending.text

/-- Lines that are all ended by a bare newline. -/
def ended (lines : List Text) : Text :=
  lines.flatMap (· ++ ['\n'])

theorem ended_cons (line : Text) (lines : List Text) : ended (line :: lines) = line ++ '\n' :: ended lines := by
  rw [ended, ended, List.flatMap_cons, List.append_assoc, List.singleton_append]

/-- Every text is made of ended lines and a rest in which no line ends. -/
theorem exists_ended_append (text : Text) :
    ∃ lines last, text = ended lines ++ last ∧ (∀ line ∈ lines, '\n' ∉ line) ∧ '\n' ∉ last := by
  induction text with
  | nil => exact ⟨[], [], rfl, by simp, List.not_mem_nil⟩
  | cons c rest ih =>
    obtain ⟨lines, last, rfl, hlines, hlast⟩ := ih
    by_cases hc : c = '\n'
    · refine ⟨[] :: lines, last, ?_, ?_, hlast⟩
      · rw [ended_cons, hc, List.nil_append, List.cons_append]
      · intro line hline
        rcases List.mem_cons.mp hline with rfl | hmem
        · exact List.not_mem_nil
        · exact hlines line hmem
    · have hlonger : ∀ line : Text, '\n' ∉ line → '\n' ∉ c :: line := by
        intro line hline hmem
        rcases List.mem_cons.mp hmem with rfl | hmem
        · exact hc rfl
        · exact hline hmem
      -- The character belongs to the first line, or to the rest if there is no line.
      cases lines with
      | nil => exact ⟨[], c :: last, rfl, by simp, hlonger last hlast⟩
      | cons line lines =>
        refine ⟨(c :: line) :: lines, last, ?_, ?_, hlast⟩
        · rw [ended_cons, ended_cons, List.cons_append, List.cons_append]
        · intro other hother
          rcases List.mem_cons.mp hother with rfl | hmem
          · exact hlonger line (hlines line List.mem_cons_self)
          · exact hlines other (List.mem_cons_of_mem _ hmem)

section Ended

variable {lines : List Text} {last : Text} (hlines : ∀ line ∈ lines, '\n' ∉ line) (hlast : '\n' ∉ last)

include hlines hlast

/-- Lines that end in newlines, and what comes after the last one, are found again by splitting. -/
theorem splitWhere_ended_append :
    Text.splitWhere (· == '\n') (ended lines ++ last) = lines ++ [last] := by
  have hunselected : ∀ {line : Text}, '\n' ∉ line → ∀ c ∈ line, (c == '\n') = false := by
    intro line hline c hc
    rw [beq_eq_false_iff_ne]
    rintro rfl
    exact hline hc
  rw [Text.splitWhere_eq_splitOnP]
  induction lines with
  | nil => exact List.splitOnP_eq_singleton (hunselected hlast)
  | cons line rest ih =>
    rw [ended_cons, List.append_assoc, List.cons_append,
      List.splitOnP_append_cons_of_forall_mem (hunselected (hlines line List.mem_cons_self)) '\n' rfl,
      ih fun line hline => hlines line (List.mem_cons_of_mem _ hline), List.cons_append]

/-- The templates are the ended lines, and the rest if there is one. -/
theorem split_ended_append :
    split (ended lines ++ last) = lines.map dropReturn ++ if last = [] then [] else [dropReturn last] := by
  unfold split
  dsimp only
  rw [splitWhere_ended_append hlines hlast, List.getLast?_concat]
  by_cases hempty : last = []
  · rw [if_pos (by rw [hempty]), if_pos hempty, List.dropLast_concat, List.append_nil]
  · rw [if_neg fun hsome => hempty (Option.some.inj hsome), if_neg hempty, List.map_append, List.map_singleton]

theorem count_ended_append : (ended lines ++ last).count '\n' = lines.length := by
  rw [List.count_append, List.count_eq_zero_of_not_mem hlast, Nat.add_zero]
  induction lines with
  | nil => rfl
  | cons line rest ih =>
    rw [ended_cons, List.count_append, List.count_cons_self,
      List.count_eq_zero_of_not_mem (hlines line List.mem_cons_self),
      ih fun line hline => hlines line (List.mem_cons_of_mem _ hline), List.length_cons, Nat.zero_add]

omit hlines in
/-- A text ends inside a line exactly if there is a rest. -/
theorem ends_inside_line_iff :
    (ended lines ++ last ≠ [] ∧ (ended lines ++ last).getLast? ≠ some '\n') ↔ last ≠ [] := by
  constructor
  · rintro ⟨hne, hend⟩ rfl
    rw [List.append_nil] at hne hend
    obtain ⟨earlier, line, rfl⟩ : ∃ earlier line, lines = earlier ++ [line] := by
      refine (List.eq_nil_or_concat' lines).resolve_left ?_
      rintro rfl
      exact hne rfl
    rw [ended, List.flatMap_append, List.flatMap_singleton, ← List.append_assoc, List.getLast?_concat] at hend
    exact hend rfl
  · intro hne
    refine ⟨fun hnil => hne (List.append_eq_nil_iff.mp hnil).2, fun hend => hlast ?_⟩
    rw [List.getLast?_append_of_ne_nil _ hne] at hend
    exact List.mem_of_getLast? hend

end Ended

theorem newline_not_mem_dropReturn {line : Text} (hline : '\n' ∉ line) : '\n' ∉ dropReturn line := by
  unfold dropReturn
  split
  · exact fun hmem => hline (List.dropLast_subset line hmem)
  · exact hline

/-- Only a return that stands last is dropped. -/
theorem dropReturn_of_ne {line : Text} (hline : line.getLast? ≠ some '\r') : dropReturn line = line :=
  if_neg hline

/-- A carriage return that was added is the one that is dropped. -/
theorem dropReturn_append_return (line : Text) : dropReturn (line ++ ['\r']) = line := by
  rw [dropReturn, List.getLast?_concat, if_pos rfl, List.dropLast_concat]

/-- What of the line end stands before its newline. -/
def LineEnd.mark : LineEnd → Text
  | newline => []
  | returnNewline => ['\r']

/-- To write lines with their marks is to write other lines with newlines. -/
theorem written_eq_ended (lines : List (Text × LineEnd)) :
    written lines = ended (lines.map fun (line, ending) => line ++ ending.mark) := by
  rw [written, ended, List.flatMap_map]
  apply List.flatMap_congr
  rintro ⟨line, ending⟩ _
  cases ending with
  | newline => simp [LineEnd.text, LineEnd.mark]
  | returnNewline => simp [LineEnd.text, LineEnd.mark]

/-- Dropping a return undoes the mark of a line, if the mark fits the line. -/
theorem LineEnd.Fits.dropReturn_append_mark {ending : LineEnd} {line : Text} (hfits : ending.Fits line) :
    dropReturn (line ++ ending.mark) = line := by
  cases ending with
  | newline =>
    rw [mark, List.append_nil]
    exact dropReturn_of_ne (hfits rfl)
  | returnNewline => exact dropReturn_append_return line

/-- Written lines and what follows them are read back. -/
theorem split_written_append {lines : List (Text × LineEnd)} {last : Text}
    (hlines : ∀ line ∈ lines, '\n' ∉ line.1 ∧ line.2.Fits line.1) (hlast : '\n' ∉ last) :
    split (written lines ++ last) = lines.map (·.1) ++ if last = [] then [] else [dropReturn last] := by
  have hmarked : ∀ line ∈ lines.map fun (line, ending) => line ++ ending.mark, '\n' ∉ line := by
    intro marked hmarked hmem
    obtain ⟨⟨line, ending⟩, hline, rfl⟩ := List.mem_map.mp hmarked
    rcases List.mem_append.mp hmem with hmem | hmem
    · exact (hlines _ hline).1 hmem
    · cases ending with
      | newline => exact absurd hmem List.not_mem_nil
      | returnNewline => exact absurd (List.mem_singleton.mp hmem) (by decide)
  rw [written_eq_ended, split_ended_append hmarked hlast, List.map_map]
  congr 1
  apply List.map_congr_left
  rintro ⟨line, ending⟩ hline
  exact (hlines _ hline).2.dropReturn_append_mark

/-- Reading a list undoes writing it. Lines without newlines are read back in order, whichever end is
    chosen for each of them; only a line with a carriage return at its end cannot have a bare newline
    after it. The last line needs no end, if it is not empty and has no carriage return at its end.
    Of any text as many templates are read as it has newlines, and one more if it ends inside a line;
    no template holds a newline. -/
theorem split_undoes_writing :
    (∀ lines : List (Text × LineEnd), (∀ line ∈ lines, '\n' ∉ line.1 ∧ line.2.Fits line.1) →
      split (written lines) = lines.map (·.1) ∧
      ∀ last : Text, '\n' ∉ last → last ≠ [] → last.getLast? ≠ some '\r' →
        split (written lines ++ last) = lines.map (·.1) ++ [last]) ∧
    ∀ text : Text, (∀ template ∈ split text, '\n' ∉ template) ∧
      (split text).length = text.count '\n' + if text ≠ [] ∧ text.getLast? ≠ some '\n' then 1 else 0 := by
  refine ⟨fun lines hlines => ⟨?_, fun last hlast hne hreturn => ?_⟩, fun text => ?_⟩
  · have hsplit := split_written_append hlines List.not_mem_nil
    rwa [if_pos rfl, List.append_nil, List.append_nil] at hsplit
  · rw [split_written_append hlines hlast, if_neg hne, dropReturn_of_ne hreturn]
  · obtain ⟨lines, last, rfl, hlines, hlast⟩ := exists_ended_append text
    rw [split_ended_append hlines hlast]
    constructor
    · intro template htemplate
      rcases List.mem_append.mp htemplate with hmem | hmem
      · obtain ⟨line, hline, rfl⟩ := List.mem_map.mp hmem
        exact newline_not_mem_dropReturn (hlines line hline)
      · split at hmem
        · exact absurd hmem List.not_mem_nil
        · rw [List.mem_singleton.mp hmem]
          exact newline_not_mem_dropReturn hlast
    · rw [List.length_append, List.length_map, count_ended_append hlines hlast]
      by_cases hempty : last = []
      · rw [if_pos hempty, if_neg fun hinside => (ends_inside_line_iff hlast).mp hinside hempty, List.length_nil]
      · rw [if_neg hempty, if_pos ((ends_inside_line_iff hlast).mpr hempty), List.length_singleton]

/-- Both line ends, an empty line, a line of carriage returns, one with a form feed and a line
    separator in it, and a last line without an end. -/
theorem split_undoes_writing_mixed :
    split "ret\r\n\n\r\r\r\nmov\u000c\u2028\nhlt" = [("ret" : Text), "", "\r\r", "mov\u000c\u2028", "hlt"] := by
  have hlines : ∀ line ∈ ([("ret", .returnNewline), ("", .newline), ("\r\r", .returnNewline),
      ("mov\u000c\u2028", .newline)] : List (Text × LineEnd)), '\n' ∉ line.1 ∧ line.2.Fits line.1 := by
    simp [LineEnd.Fits]
  exact (split_undoes_writing.1 _ hlines).2 "hlt" (by decide) (by decide) (by decide)

end InstrDecl.InstructionList
