import InstrDecl.Text.Character
import Mathlib.Data.List.DropRight
import Mathlib.Data.List.Forall2

namespace InstrDecl.Text

theorem splitWhere_eq_splitOnP (p : Char → Bool) (text : Text) : splitWhere p text = text.splitOnP p := by
  induction text with
  | nil => rfl
  | cons c rest ih =>
    rw [splitWhere, List.splitOnP_cons_eq_if_modifyHead, ih]
    split
    · rfl
    · cases hparts : rest.splitOnP p with
      | nil => exact absurd hparts (List.splitOnP_ne_nil p rest)
      | cons part parts => rfl

/-- The parts of a text hold characters of the text, and none that it was split at. -/
theorem mem_and_eq_false_of_mem_splitWhere {p : Char → Bool} {text part : Text} (hpart : part ∈ splitWhere p text) :
    ∀ c ∈ part, c ∈ text ∧ p c = false := by
  induction text generalizing part with
  | nil =>
    obtain rfl : part = [] := by simpa [splitWhere] using hpart
    simp
  | cons c rest ih =>
    rw [splitWhere] at hpart
    split at hpart
    · rcases List.mem_cons.mp hpart with rfl | hrest
      · simp
      · exact fun d hd => ⟨List.mem_cons_of_mem _ (ih hrest d hd).1, (ih hrest d hd).2⟩
    · next hc =>
      split at hpart
      · next hnil => exact absurd hnil (splitWhere_ne_nil p rest)
      · next first parts hsplit =>
        have hlater : ∀ part ∈ first :: parts, ∀ d ∈ part, d ∈ c :: rest ∧ p d = false := by
          intro part hpart d hd
          obtain ⟨hmem, hp⟩ := ih (hsplit ▸ hpart) d hd
          exact ⟨List.mem_cons_of_mem _ hmem, hp⟩
        rcases List.mem_cons.mp hpart with rfl | hrest
        · intro d hd
          rcases List.mem_cons.mp hd with rfl | hmem
          · exact ⟨List.mem_cons_self, by simpa using hc⟩
          · exact hlater first List.mem_cons_self d hmem
        · exact hlater part (List.mem_cons_of_mem _ hrest)

theorem eq_false_of_mem_splitWhere {p : Char → Bool} {text part : Text} (hpart : part ∈ splitWhere p text) :
    ∀ c ∈ part, p c = false :=
  fun c hc => (mem_and_eq_false_of_mem_splitWhere hpart c hc).2

/-- No character is lost where a text is split, the separators apart. -/
theorem count_flatten_splitWhere {c separator : Char} (hne : c ≠ separator) (text : Text) :
    (splitWhere (· == separator) text).flatten.count c = text.count c := by
  induction text with
  | nil => rfl
  | cons first rest ih =>
    rw [splitWhere]
    split
    · next hseparator =>
      rw [List.flatten_cons, List.nil_append, ih, eq_of_beq hseparator, List.count_cons_of_ne hne.symm]
    · split
      · next hnil => exact absurd hnil (splitWhere_ne_nil _ rest)
      · next part parts hparts =>
        rw [hparts, List.flatten_cons] at ih
        rw [List.flatten_cons, List.cons_append, List.count_cons, List.count_cons, ih]

/-- The pieces of a text hold no blank. -/
theorem isBlank_eq_false_of_mem_pieces {text piece : Text} (hpiece : piece ∈ pieces text) :
    ∀ c ∈ piece, isBlank c = false :=
  eq_false_of_mem_splitWhere (List.mem_filter.mp hpiece).1

/-- Splitting undoes joining, if no part holds the separator. -/
theorem splitWhere_intercalate {separator : Char} {parts : List Text} (hne : parts ≠ [])
    (hparts : ∀ part ∈ parts, separator ∉ part) :
    splitWhere (· == separator) ([separator].intercalate parts) = parts := by
  rw [splitWhere_eq_splitOnP, ← List.splitOn_eq_splitOnP]
  exact List.splitOn_intercalate separator hparts hne

/-- A join determines its parts, if none of them is empty or holds the separator. -/
theorem intercalate_injective {separator : Char} {parts parts' : List Text}
    (hparts : ∀ part ∈ parts, part ≠ [] ∧ separator ∉ part)
    (hparts' : ∀ part ∈ parts', part ≠ [] ∧ separator ∉ part)
    (hjoin : [separator].intercalate parts = [separator].intercalate parts') : parts = parts' := by
  have hempty : ∀ parts : List Text, (∀ part ∈ parts, part ≠ [] ∧ separator ∉ part) →
      [separator].intercalate parts = [] → parts = [] := by
    intro parts hparts hnil
    cases parts with
    | nil => rfl
    | cons part rest =>
      have hpart := (hparts part List.mem_cons_self).1
      cases rest <;> simp_all
  cases hnil : parts with
  | nil =>
    rw [hnil, List.intercalate_nil] at hjoin
    exact (hempty parts' hparts' hjoin.symm).symm
  | cons part rest =>
    have hne : parts ≠ [] := by simp [hnil]
    have hne' : parts' ≠ [] := by
      rintro rfl
      exact hne (hempty parts hparts hjoin)
    have hsplit := congrArg (splitWhere (· == separator)) hjoin
    rw [splitWhere_intercalate hne fun part hpart => (hparts part hpart).2,
      splitWhere_intercalate hne' fun part hpart => (hparts' part hpart).2] at hsplit
    rw [← hsplit, hnil]

theorem mem_of_mem_intersperse {separator text : Text} {texts : List Text}
    (htext : text ∈ texts.intersperse separator) : text = separator ∨ text ∈ texts := by
  induction texts with
  | nil => simp at htext
  | cons first rest ih =>
    cases rest with
    | nil => exact .inr htext
    | cons next rest =>
      rw [List.intersperse_cons_cons, List.mem_cons, List.mem_cons] at htext
      rcases htext with rfl | rfl | hrest
      · exact .inr List.mem_cons_self
      · exact .inl rfl
      · rcases ih hrest with rfl | hmem
        · exact .inl rfl
        · exact .inr (List.mem_cons_of_mem _ hmem)

/-- A join holds the characters of its parts and of the separator, and no others. -/
theorem mem_of_mem_intercalate {separator : Text} {parts : List Text} {c : Char}
    (hc : c ∈ separator.intercalate parts) : c ∈ separator ∨ ∃ part ∈ parts, c ∈ part := by
  obtain ⟨text, htext, hmem⟩ := List.mem_flatten.mp hc
  rcases mem_of_mem_intersperse htext with rfl | hpart
  · exact .inl hmem
  · exact .inr ⟨text, hpart, hmem⟩

theorem mem_intercalate_of_mem {separator part : Text} {parts : List Text} {c : Char} (hpart : part ∈ parts)
    (hc : c ∈ part) : c ∈ separator.intercalate parts := by
  induction parts with
  | nil => exact absurd hpart List.not_mem_nil
  | cons first rest ih =>
    cases rest with
    | nil =>
      rw [List.intercalate_singleton, ← List.mem_singleton.mp hpart]
      exact hc
    | cons next rest =>
      rw [List.intercalate_cons_cons]
      rcases List.mem_cons.mp hpart with rfl | hrest
      · exact List.mem_append_left _ (List.mem_append_left _ hc)
      · exact List.mem_append_right _ (ih hrest)

/-- Of parts that have the same lengths, only the same parts have the same join. -/
theorem intercalate_eq_iff {separator : Text} {parts parts' : List Text}
    (hlengths : List.Forall₂ (fun part part' => part.length = part'.length) parts parts') :
    separator.intercalate parts = separator.intercalate parts' ↔ parts = parts' := by
  refine ⟨fun hjoin => ?_, congrArg _⟩
  induction hlengths with
  | nil => rfl
  | @cons part part' rest rest' hlength hrest ih =>
    cases hrest with
    | nil =>
      rw [List.intercalate_singleton, List.intercalate_singleton] at hjoin
      rw [hjoin]
    | cons =>
      rw [List.intercalate_cons_cons, List.intercalate_cons_cons, List.append_assoc, List.append_assoc] at hjoin
      obtain ⟨hpart, htail⟩ := List.append_inj hjoin hlength
      rw [hpart, ih (List.append_cancel_left htail)]

theorem length_intercalate {separator : Text} {width : Nat} {first : Text} {rest : List Text}
    (hparts : ∀ part ∈ first :: rest, part.length = width) :
    (separator.intercalate (first :: rest)).length = width + rest.length * (separator.length + width) := by
  induction rest generalizing first with
  | nil => simpa using hparts
  | cons next rest ih =>
    have hfirst := hparts first List.mem_cons_self
    have hrest := ih fun part hpart => hparts part (List.mem_cons_of_mem _ hpart)
    rw [List.intercalate_cons_cons, List.length_append, List.length_append, hfirst, hrest, List.length_cons,
      Nat.add_one_mul]
    omega

/-- A join of parts of one width determines its parts: its length tells how many they are. -/
theorem intercalate_injective_of_length {separator : Text} {parts parts' : List Text} {width : Nat}
    (hwidth : 0 < width) (hparts : ∀ part ∈ parts, part.length = width)
    (hparts' : ∀ part ∈ parts', part.length = width)
    (hjoin : separator.intercalate parts = separator.intercalate parts') : parts = parts' := by
  have hlength := congrArg List.length hjoin
  have hcount : parts.length = parts'.length := by
    cases parts with
    | nil =>
      cases parts' with
      | nil => rfl
      | cons first' rest' =>
        rw [length_intercalate hparts', List.intercalate_nil, List.length_nil] at hlength
        omega
    | cons first rest =>
      cases parts' with
      | nil =>
        rw [length_intercalate hparts, List.intercalate_nil, List.length_nil] at hlength
        omega
      | cons first' rest' =>
        rw [length_intercalate hparts, length_intercalate hparts', Nat.add_left_cancel_iff] at hlength
        exact congrArg (· + 1) (Nat.eq_of_mul_eq_mul_right (by omega) hlength)
  refine (intercalate_eq_iff (List.forall₂_iff_get.mpr ⟨hcount, fun number hlt hlt' => ?_⟩)).mp hjoin
  rw [hparts _ (List.get_mem _ _), hparts' _ (List.get_mem _ _)]

/-- Two rows of parts are joined like one. -/
theorem intercalate_append {separator : Text} {first second : List Text} (hfirst : first ≠ [])
    (hsecond : second ≠ []) :
    separator.intercalate (first ++ second) =
      separator.intercalate first ++ separator ++ separator.intercalate second := by
  induction first with
  | nil => exact absurd rfl hfirst
  | cons part rest ih =>
    cases rest with
    | nil => simp [List.intercalate_cons_of_ne_nil hsecond]
    | cons next rest =>
      have hrest := ih (by simp)
      simp only [List.cons_append, List.intercalate_cons_cons] at hrest ⊢
      rw [hrest]
      simp

/-- Joining joins of rows is joining all that is in the rows. -/
theorem intercalate_map_intercalate {separator : Text} {rows : List (List Text)} (hrows : ∀ row ∈ rows, row ≠ []) :
    separator.intercalate (rows.map separator.intercalate) = separator.intercalate rows.flatten := by
  induction rows with
  | nil => rfl
  | cons row rest ih =>
    have hrest := ih fun row hrow => hrows row (List.mem_cons_of_mem _ hrow)
    cases hcase : rest with
    | nil => simp
    | cons next rest' =>
      have hne : rest.map separator.intercalate ≠ [] := by simp [hcase]
      have hflat : rest.flatten ≠ [] := by
        have hnext := hrows next (by simp [hcase])
        simp [hcase, hnext]
      rw [← hcase, List.map_cons, List.intercalate_cons_of_ne_nil hne, hrest, List.flatten_cons,
        intercalate_append (hrows row List.mem_cons_self) hflat]

/-- What stands before the first separator and what stands after it. -/
theorem append_cons_injective {separator : Char} {first first' rest rest' : Text} (hfirst : separator ∉ first)
    (hfirst' : separator ∉ first') (hsame : first ++ separator :: rest = first' ++ separator :: rest') :
    first = first' ∧ rest = rest' := by
  induction first generalizing first' with
  | nil =>
    cases first' with
    | nil => exact ⟨rfl, (List.cons.inj hsame).2⟩
    | cons c' more' =>
      obtain rfl : separator = c' := (List.cons.inj hsame).1
      exact absurd List.mem_cons_self hfirst'
  | cons c more ih =>
    cases first' with
    | nil =>
      obtain rfl : c = separator := (List.cons.inj hsame).1
      exact absurd List.mem_cons_self hfirst
    | cons c' more' =>
      obtain ⟨rfl, htail⟩ := List.cons.inj hsame
      rw [List.mem_cons, not_or] at hfirst hfirst'
      obtain ⟨rfl, hrest⟩ := ih hfirst.2 hfirst'.2 htail
      exact ⟨rfl, hrest⟩

variable {p : Char → Bool} {text : Text}

theorem dropEndWhile_eq_rdropWhile (p : Char → Bool) (text : Text) : dropEndWhile p text = text.rdropWhile p := rfl

/-- Nothing is left of a text exactly if all of it can be trimmed. -/
theorem trimWhere_eq_nil_iff : trimWhere p text = [] ↔ ∀ c ∈ text, p c = true := by
  rw [trimWhere, dropEndWhile_eq_rdropWhile, List.rdropWhile_eq_nil_iff]
  constructor
  · intro hall
    rw [← List.dropWhile_eq_nil_iff]
    by_contra hne
    have hfirst := hall _ (List.head_mem hne)
    rw [List.head_dropWhile_not p hne] at hfirst
    cases hfirst
  · intro hall c hc
    exact hall c ((List.dropWhile_sublist p).subset hc)

/-- Trimming takes away margins and leaves all that is between them. -/
theorem exists_eq_append_trimWhere (p : Char → Bool) (text : Text) :
    ∃ before after, text = before ++ trimWhere p text ++ after ∧ (∀ c ∈ before, p c = true) ∧
      ∀ c ∈ after, p c = true := by
  refine ⟨text.takeWhile p, (text.dropWhile p).rtakeWhile p, ?_, fun c hc => List.mem_takeWhile_imp hc,
    fun c hc => List.mem_rtakeWhile_imp hc⟩
  rw [List.append_assoc, trimWhere, dropEndWhile_eq_rdropWhile, List.rdropWhile_append_rtakeWhile,
    List.takeWhile_append_dropWhile]

/-- Trimming stops on both sides at the first character that cannot be trimmed. -/
theorem trimWhere_append_append {before after : Text} (hbefore : ∀ c ∈ before, p c = true)
    (hafter : ∀ c ∈ after, p c = true) (hne : text ≠ []) (hfirst : p (text.head hne) = false)
    (hlast : p (text.getLast hne) = false) : trimWhere p (before ++ text ++ after) = text := by
  have hstart : (before ++ text ++ after).dropWhile p = text ++ after := by
    rw [List.append_assoc, List.dropWhile_append_of_pos hbefore]
    cases text with
    | nil => exact absurd rfl hne
    | cons c rest => exact List.dropWhile_cons_of_neg (ne_true_of_eq_false hfirst)
  rw [trimWhere, hstart, dropEndWhile, List.reverse_append,
    List.dropWhile_append_of_pos fun c hc => hafter c (List.mem_reverse.mp hc)]
  exact List.rdropWhile_eq_self_iff.mpr fun _ => ne_true_of_eq_false hlast

/-- A text of blanks has no pieces, and no other text is without any. -/
theorem pieces_eq_nil_iff : pieces text = [] ↔ ∀ c ∈ text, isBlank c = true := by
  induction text with
  | nil => simp [pieces, splitWhere]
  | cons c rest ih =>
    rw [List.forall_mem_cons, ← ih, pieces, pieces, splitWhere]
    cases hc : isBlank c with
    | true => simp
    | false =>
      cases hparts : splitWhere isBlank rest with
      | nil => simp
      | cons part parts => simp

/-- A text has pieces exactly if something is left of it when it is trimmed. -/
theorem isEmpty_trim_iff : (trim text).isEmpty = true ↔ pieces text = [] := by
  rw [List.isEmpty_iff, trim, trimWhere_eq_nil_iff, pieces_eq_nil_iff]

end InstrDecl.Text
