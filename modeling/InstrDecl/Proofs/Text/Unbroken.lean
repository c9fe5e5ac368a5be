import InstrDecl.Proofs.Text.Lowercase
import InstrDecl.Proofs.Text.Split
import InstrDecl.Template.Basic

namespace InstrDecl.Text

/-- The text holds no blank. -/
def Unbroken (text : Text) : Prop :=
  ∀ c ∈ text, isBlank c = false

-- by the characters of the text, and not by all characters there are
instance : DecidablePred Unbroken :=
  List.decidableBAll fun c => isBlank c = false

theorem Unbroken.append {first second : Text} (hfirst : first.Unbroken) (hsecond : second.Unbroken) :
    (first ++ second).Unbroken := by
  intro c hc
  rcases List.mem_append.mp hc with hmem | hmem
  · exact hfirst c hmem
  · exact hsecond c hmem

theorem Unbroken.subset {text part : Text} (htext : text.Unbroken) (hpart : part ⊆ text) : part.Unbroken :=
  fun c hc => htext c (hpart hc)

theorem Unbroken.not_mem {text : Text} {c : Char} (htext : text.Unbroken) (hc : isBlank c = true) : c ∉ text := by
  intro hmem
  rw [htext c hmem] at hc
  cases hc

/-- A piece of a text is not empty, and no blank is left in it. -/
theorem ne_nil_and_unbroken_of_mem_pieces {text piece : Text} (hpiece : piece ∈ pieces text) :
    piece ≠ [] ∧ piece.Unbroken := by
  constructor
  · simpa using (List.mem_filter.mp hpiece).2
  · exact isBlank_eq_false_of_mem_pieces hpiece

/-- Texts that could be pieces are the pieces again, when they are joined by single spaces. -/
theorem pieces_intercalate {parts : List Text} (hparts : ∀ part ∈ parts, part ≠ [] ∧ part.Unbroken) :
    pieces ([' '].intercalate parts) = parts := by
  induction parts with
  | nil => rfl
  | cons part rest ih =>
    obtain ⟨hne, hunbroken⟩ := hparts part List.mem_cons_self
    have hkept : ∀ texts : List Text,
        (part :: texts).filter (!·.isEmpty) = part :: texts.filter (!·.isEmpty) :=
      fun texts => List.filter_cons_of_pos (by simpa using hne)
    have hrest := ih fun part hmem => hparts part (List.mem_cons_of_mem _ hmem)
    cases rest with
    | nil =>
      rw [List.intercalate_singleton, pieces, splitWhere_eq_splitOnP, List.splitOnP_eq_singleton hunbroken,
        hkept, List.filter_nil]
    | cons next rest =>
      rw [pieces, splitWhere_eq_splitOnP] at hrest ⊢
      rw [List.intercalate_cons_cons, List.append_assoc, List.singleton_append,
        List.splitOnP_append_cons_of_forall_mem hunbroken ' ' rfl, hkept, hrest]

/-- Among texts without blanks that are joined by spaces, the spaces are the only blanks. -/
theorem eq_space_of_mem_intercalate {parts : List Text} (hparts : ∀ part ∈ parts, part.Unbroken) {c : Char}
    (hc : c ∈ [' '].intercalate parts) (hblank : isBlank c = true) : c = ' ' := by
  rcases mem_of_mem_intercalate hc with hspace | ⟨part, hpart, hmem⟩
  · exact List.mem_singleton.mp hspace
  · exact absurd hmem ((hparts part hpart).not_mem hblank)

theorem dropEndWhile_subset (p : Char → Bool) (text : Text) : dropEndWhile p text ⊆ text := by
  intro c hc
  have hmem : c ∈ text.reverse.dropWhile p := List.mem_reverse.mp hc
  exact List.mem_reverse.mp ((List.dropWhile_sublist p).subset hmem)

theorem interior_subset (text : Text) : Text.interior text ⊆ text :=
  fun _ hc => (List.drop_subset 1 text) ((List.dropLast_subset _) hc)

theorem isBlank_ofNat_eq_false {code : Nat} (hcode : ∀ range ∈ blanks, range.contains code = false) :
    isBlank (Char.ofNat code) = false := by
  rcases ofNat_cases code with htoNat | hnull
  · rw [isBlank, CodeRange.covers, htoNat, List.any_eq_false]
    simpa using hcode
  · rw [hnull]
    rfl

theorem CaseRun.shift_avoids_blanks {run : CaseRun} {code : Nat} (hrun : run ∈ caseRuns)
    (hcode : run.contains code = true) :
    ∀ range ∈ blanks, range.contains (code + run.shift).toNat = false := by
  intro range hrange
  have hpositive : ∀ range ∈ blanks, 0 < range.first := by decide
  have hfirst := hpositive range hrange
  have havoids := List.all_eq_true.mp (avoidsBlanks_of_mem_caseRuns run hrun) range hrange
  simp only [CaseRun.contains, Bool.or_eq_true, Bool.and_eq_true, decide_eq_true_eq] at havoids hcode
  simp only [CodeRange.contains, Bool.and_eq_false_iff, decide_eq_false_iff_not]
  omega

/-- The lowercase form of a character is no blank, unless the character is. -/
theorem unbroken_lowerChar {c : Char} (hc : isBlank c = false) : (lowerChar c).Unbroken := by
  unfold lowerChar
  split
  · next hascii =>
    intro d hd
    obtain rfl := List.mem_singleton.mp hd
    exact (isBlank_toLower c).trans hc
  · split
    · decide
    · split
      · next run hfind =>
        intro d hd
        obtain rfl := List.mem_singleton.mp hd
        have hcontains : run.contains c.toNat = true := by simpa using List.find?_some hfind
        exact isBlank_ofNat_eq_false
          (CaseRun.shift_avoids_blanks (List.mem_of_find?_eq_some hfind) hcontains)
      · intro d hd
        obtain rfl := List.mem_singleton.mp hd
        exact hc

theorem unbroken_lowerAt (before after : Text) {c : Char} (hc : isBlank c = false) :
    (lowerAt before c after).Unbroken := by
  unfold lowerAt
  split
  · split <;> decide
  · exact unbroken_lowerChar hc

/-- No lowercase form holds a blank that was not there before. -/
theorem Unbroken.lower {text : Text} (htext : text.Unbroken) : (Text.lower text).Unbroken := by
  have hafter : ∀ before, (lowerAfter before text).Unbroken := by
    induction text with
    | nil =>
      intro before c hc
      exact absurd hc List.not_mem_nil
    | cons c rest ih =>
      intro before
      have hrest := ih fun d hd => htext d (List.mem_cons_of_mem _ hd)
      exact (unbroken_lowerAt before rest (htext c List.mem_cons_self)).append (hrest (c :: before))
  exact hafter []

end InstrDecl.Text
