import InstrDecl.Stream
import Mathlib.Data.List.TakeWhile

namespace InstrDecl.Text

/-- What makes an escape mark before it the start of a control sequence. -/
def ContinuesControl (rest : Text) : Prop :=
  ∃ parameters intermediates final after, rest = '[' :: (parameters ++ (intermediates ++ final :: after)) ∧
    (∀ c ∈ parameters, isControlParameter c = true) ∧
    (∀ c ∈ intermediates, isControlIntermediate c = true) ∧ isControlFinal final = true

/-- A control sequence stands somewhere in the text. -/
def HoldsControlSequence (text : Text) : Prop :=
  ∃ before rest, text = before ++ escapeMark :: rest ∧ ContinuesControl rest

/-- The classes of a control sequence have no character in common, so each part ends where the next one
    begins. -/
theorem isControlParameter_eq_false {c : Char} (hc : isControlIntermediate c = true ∨ isControlFinal c = true) :
    isControlParameter c = false := by
  simp only [isControlParameter, isControlIntermediate, isControlFinal, CodeRange.contains, Bool.and_eq_true,
    Bool.and_eq_false_iff, decide_eq_true_eq, decide_eq_false_iff_not] at hc ⊢
  omega

theorem isControlIntermediate_eq_false {c : Char} (hc : isControlFinal c = true) : isControlIntermediate c = false := by
  simp only [isControlIntermediate, isControlFinal, CodeRange.contains, Bool.and_eq_true,
    Bool.and_eq_false_iff, decide_eq_true_eq, decide_eq_false_iff_not] at hc ⊢
  omega

/-- The three classes have no character in common, so each part of a sequence ends where the next
    begins. -/
theorem isSome_controlLength?_iff {rest : Text} : (controlLength? rest).isSome = true ↔ ContinuesControl rest := by
  constructor
  · intro hsome
    unfold controlLength? at hsome
    split at hsome
    · next body =>
      dsimp only at hsome
      split at hsome
      · cases hsome
      · next final after hfinal =>
        split at hsome
        · next hclass =>
          refine ⟨body.takeWhile isControlParameter,
            (body.dropWhile isControlParameter).takeWhile isControlIntermediate, final, after, ?_, ?_, ?_, hclass⟩
          · rw [← hfinal, List.takeWhile_append_dropWhile, List.takeWhile_append_dropWhile]
          · exact fun c hc => List.mem_takeWhile_imp hc
          · exact fun c hc => List.mem_takeWhile_imp hc
        · cases hsome
    · cases hsome
  · rintro ⟨parameters, intermediates, final, after, rfl, hparameters, hintermediates, hfinal⟩
    have hfirst : (parameters ++ (intermediates ++ final :: after)).dropWhile isControlParameter =
        intermediates ++ final :: after := by
      rw [List.dropWhile_append_of_pos hparameters]
      cases intermediates with
      | nil => simp [isControlParameter_eq_false (.inr hfinal)]
      | cons c more => simp [isControlParameter_eq_false (.inl (hintermediates c List.mem_cons_self))]
    have hsecond : (intermediates ++ final :: after).dropWhile isControlIntermediate = final :: after := by
      rw [List.dropWhile_append_of_pos hintermediates]
      simp [isControlIntermediate_eq_false hfinal]
    simp [controlLength?, hfirst, hsecond, hfinal]

/-- Nothing is added where control sequences are left out. -/
theorem length_plainAfter_le (skip : Nat) (text : Text) : (plainAfter skip text).length ≤ text.length := by
  fun_induction plainAfter skip text <;> simp only [List.length_cons, List.length_nil] <;> omega

theorem holdsControlSequence_cons {c : Char} {rest : Text} :
    HoldsControlSequence (c :: rest) ↔ (c = escapeMark ∧ ContinuesControl rest) ∨ HoldsControlSequence rest := by
  constructor
  · rintro ⟨before, after, hsplit, hcontinues⟩
    cases before with
    | nil =>
      obtain ⟨rfl, rfl⟩ := List.cons.inj hsplit
      exact .inl ⟨rfl, hcontinues⟩
    | cons first before =>
      obtain ⟨rfl, rfl⟩ := List.cons.inj hsplit
      exact .inr ⟨before, after, rfl, hcontinues⟩
  · rintro (⟨rfl, hcontinues⟩ | ⟨before, after, rfl, hcontinues⟩)
    · exact ⟨[], rest, rfl, hcontinues⟩
    · exact ⟨c :: before, after, rfl, hcontinues⟩

/-- A text is shown as it is exactly if it holds no control sequence. -/
theorem plain_eq_self_iff {text : Text} : plain text = text ↔ ¬ HoldsControlSequence text := by
  unfold plain
  induction text with
  | nil => simp [plainAfter, HoldsControlSequence]
  | cons c rest ih =>
    rw [holdsControlSequence_cons, ← isSome_controlLength?_iff, plainAfter]
    by_cases hmark : c = escapeMark
    · subst hmark
      cases hlength : controlLength? rest with
      | none => simp [ih]
      | some length =>
        -- The characters of the sequence are missing, so the text has become shorter.
        have hshorter := length_plainAfter_le length rest
        have hne : plainAfter length rest ≠ escapeMark :: rest := by
          intro hsame
          rw [hsame, List.length_cons] at hshorter
          omega
        simp [hne]
    · simp [hmark, ih]

/-- A control sequence begins in the text, and ends in it or is still open where the text ends. -/
def OpensControlSequence (text : Text) : Prop :=
  ∃ before parameters intermediates rest,
    text = before ++ escapeMark :: '[' :: (parameters ++ (intermediates ++ rest)) ∧
      (∀ c ∈ parameters, isControlParameter c = true) ∧ (∀ c ∈ intermediates, isControlIntermediate c = true) ∧
      ∀ c, rest.head? = some c → isControlFinal c = true

theorem not_opensControlSequence_of_not_mem {text : Text} (hmark : escapeMark ∉ text) :
    ¬ OpensControlSequence text := by
  rintro ⟨before, _, _, _, rfl, _⟩
  exact hmark (List.mem_append_right before List.mem_cons_self)

/-- No character becomes more frequent where control sequences are left out. -/
theorem count_plainAfter_le (c : Char) (skip : Nat) (text : Text) :
    (plainAfter skip text).count c ≤ text.count c := by
  fun_induction plainAfter skip text <;> simp only [List.count_cons, List.count_nil] <;> omega

/-- Each control sequence takes its escape mark with it. -/
theorem not_holdsControlSequence_of_count_le {text : Text}
    (hcount : text.count escapeMark ≤ (plain text).count escapeMark) : ¬ HoldsControlSequence text := by
  unfold plain at hcount
  induction text with
  | nil => simp [HoldsControlSequence]
  | cons c rest ih =>
    rw [holdsControlSequence_cons, ← isSome_controlLength?_iff]
    rw [plainAfter] at hcount
    by_cases hmark : c = escapeMark
    · subst hmark
      cases hlength : controlLength? rest with
      | none =>
        rw [if_pos rfl, hlength] at hcount
        dsimp only at hcount
        rw [List.count_cons_self, List.count_cons_self] at hcount
        simp [ih (by omega)]
      | some length =>
        rw [if_pos rfl, hlength] at hcount
        dsimp only at hcount
        have hle := count_plainAfter_le escapeMark length rest
        rw [List.count_cons_self] at hcount
        omega
    · rw [if_neg hmark, List.count_cons_of_ne hmark, List.count_cons_of_ne hmark] at hcount
      simp [hmark, ih hcount]

theorem holdsControlSequence_of_opens_append {text tail : Text} (hopens : OpensControlSequence text)
    (htail : ∃ intermediates final after, tail = intermediates ++ final :: after ∧
      (∀ c ∈ intermediates, isControlIntermediate c = true) ∧ isControlFinal final = true) :
    HoldsControlSequence (text ++ tail) := by
  obtain ⟨before, parameters, intermediates, rest, rfl, hparameters, hintermediates, hrest⟩ := hopens
  cases rest with
  | cons final after =>
    exact ⟨before, '[' :: (parameters ++ (intermediates ++ final :: (after ++ tail))), by simp,
      parameters, intermediates, final, after ++ tail, rfl, hparameters, hintermediates, hrest final rfl⟩
  | nil =>
    obtain ⟨more, final, after, rfl, hmore, hfinal⟩ := htail
    refine ⟨before, '[' :: (parameters ++ ((intermediates ++ more) ++ final :: after)), by simp,
      parameters, intermediates ++ more, final, after, rfl, hparameters, ?_, hfinal⟩
    intro c hc
    rcases List.mem_append.mp hc with hfirst | hsecond
    · exact hintermediates c hfirst
    · exact hmore c hsecond

/-- What continues a control sequence over the end of a text is still open where the text ends. -/
theorem opens_of_continuesControl_append {text tail : Text} (htext : text ≠ [])
    (hcontinues : ContinuesControl (text ++ tail)) : OpensControlSequence (escapeMark :: text) := by
  obtain ⟨parameters, intermediates, final, after, hsplit, hparameters, hintermediates, hfinal⟩ := hcontinues
  obtain ⟨c, body, rfl⟩ := List.exists_cons_of_ne_nil htext
  obtain ⟨rfl, hbody⟩ := List.cons.inj hsplit
  rcases List.append_eq_append_iff.mp hbody with ⟨more, rfl, hmore⟩ | ⟨more, rfl, hmore⟩
  · -- the text ends among the parameters
    exact ⟨[], body, [], [], by simp, fun c hc => hparameters c (List.mem_append_left _ hc), by simp, by simp⟩
  · rcases List.append_eq_append_iff.mp hmore.symm with ⟨rest, rfl, hrest⟩ | ⟨rest, rfl, hrest⟩
    · exact ⟨[], parameters, more, [], by simp, hparameters, fun c hc => hintermediates c (List.mem_append_left _ hc),
        by simp⟩
    · refine ⟨[], parameters, intermediates, rest, by simp, hparameters, hintermediates, ?_⟩
      intro c hc
      cases rest with
      | nil => cases hc
      | cons first rest =>
        cases hc
        obtain ⟨rfl, _⟩ := List.cons.inj hrest
        exact hfinal

/-- A text that is followed by spaces and a letter or the like, with no further escape mark, shows a
    control sequence exactly if one begins in it. -/
theorem holdsControlSequence_append_iff {text tail : Text} (hmark : escapeMark ∉ tail) (hhead : tail.head? ≠ some '[')
    (htail : ∃ intermediates final after, tail = intermediates ++ final :: after ∧
      (∀ c ∈ intermediates, isControlIntermediate c = true) ∧ isControlFinal final = true) :
    HoldsControlSequence (text ++ tail) ↔ OpensControlSequence text := by
  refine ⟨?_, fun hopens => holdsControlSequence_of_opens_append hopens htail⟩
  rintro ⟨before, rest, hsplit, hcontinues⟩
  have hinside : ∃ more, text = before ++ escapeMark :: more ∧ rest = more ++ tail := by
    rcases List.append_eq_append_iff.mp hsplit with ⟨more, _, rfl⟩ | ⟨more, rfl, hmore⟩
    · exact absurd (List.mem_append_right more List.mem_cons_self) hmark
    · cases more with
      | nil =>
        rw [List.nil_append] at hmore
        exact absurd (hmore ▸ List.mem_cons_self) hmark
      | cons c more =>
        obtain ⟨rfl, hrest⟩ := List.cons.inj hmore
        exact ⟨more, rfl, hrest⟩
  obtain ⟨more, rfl, rfl⟩ := hinside
  have hne : more ≠ [] := by
    rintro rfl
    obtain ⟨_, _, _, _, rfl, _⟩ := hcontinues
    exact hhead rfl
  obtain ⟨earlier, parameters, intermediates, rest, hopens, hclasses⟩ := opens_of_continuesControl_append hne hcontinues
  exact ⟨before ++ earlier, parameters, intermediates, rest, by rw [hopens, List.append_assoc], hclasses⟩

theorem not_holdsControlSequence_of_not_mem {text : Text} (hmark : escapeMark ∉ text) :
    ¬ HoldsControlSequence text := by
  rintro ⟨before, rest, rfl, _⟩
  exact hmark (List.mem_append_right before List.mem_cons_self)

section Newline

variable {p : Char → Bool} (hnewline : p '\n' = false) (line rest : Text)

include hnewline

theorem takeWhile_append_newline : (line ++ '\n' :: rest).takeWhile p = line.takeWhile p := by
  induction line with
  | nil => simp [hnewline]
  | cons c line ih => cases hc : p c <;> simp [hc, ih]

theorem dropWhile_append_newline : (line ++ '\n' :: rest).dropWhile p = line.dropWhile p ++ '\n' :: rest := by
  induction line with
  | nil => simp [hnewline]
  | cons c line ih => cases hc : p c <;> simp [hc, ih]

end Newline

/-- A newline is in no class, so a control sequence does not reach over it. -/
theorem controlLength?_append_newline (line rest : Text) :
    controlLength? (line ++ '\n' :: rest) = controlLength? line := by
  cases line with
  | nil => rfl
  | cons c body =>
    by_cases hbracket : c = '['
    · subst hbracket
      rw [List.cons_append, controlLength?, controlLength?, dropWhile_append_newline (by decide),
        takeWhile_append_newline (by decide), takeWhile_append_newline (by decide),
        dropWhile_append_newline (by decide)]
      cases (body.dropWhile isControlParameter).dropWhile isControlIntermediate with
      | nil => rfl
      | cons final after => rfl
    · rw [List.cons_append, controlLength?, controlLength?] <;> simp [hbracket]

theorem controlLength?_le {rest : Text} {length : Nat} (hlength : controlLength? rest = some length) :
    length ≤ rest.length := by
  unfold controlLength? at hlength
  split at hlength
  · next body =>
    dsimp only at hlength
    split at hlength
    · cases hlength
    · next final after hfinal =>
      split at hlength
      · cases hlength
        have hsplit : body.takeWhile isControlParameter ++
            ((body.dropWhile isControlParameter).takeWhile isControlIntermediate ++ final :: after) = body := by
          rw [← hfinal, List.takeWhile_append_dropWhile, List.takeWhile_append_dropWhile]
        have hcount := congrArg List.length hsplit
        simp only [List.length_append, List.length_cons] at hcount ⊢
        omega
      · cases hlength
  · cases hlength

/-- A line is shown as if nothing came after it: no control sequence goes on past a newline. -/
theorem plainAfter_append_newline {skip : Nat} {line : Text} (hskip : skip ≤ line.length) (rest : Text) :
    plainAfter skip (line ++ '\n' :: rest) = plainAfter skip line ++ '\n' :: plain rest := by
  fun_induction plainAfter skip line with
  | case1 skip =>
    obtain rfl : skip = 0 := Nat.le_zero.mp hskip
    rfl
  | case2 skip c line ih => exact ih (Nat.le_of_succ_le_succ hskip)
  | case3 line length hlength ih =>
    rw [List.cons_append, plainAfter, if_pos rfl, controlLength?_append_newline, hlength]
    exact ih (controlLength?_le hlength)
  | case4 line hlength ih =>
    rw [List.cons_append, plainAfter, if_pos rfl, controlLength?_append_newline, hlength]
    exact congrArg _ (ih (Nat.zero_le _))
  | case5 c line hmark ih =>
    rw [List.cons_append, plainAfter, if_neg hmark]
    exact congrArg _ (ih (Nat.zero_le _))

/-- Texts that end in a newline can be printed together or one after the other. -/
theorem plain_flatten_of_ended {texts : List Text} (hended : ∀ text ∈ texts, ∃ line, text = line ++ ['\n']) :
    plain texts.flatten = texts.flatMap plain := by
  induction texts with
  | nil => rfl
  | cons text texts ih =>
    obtain ⟨⟨line, rfl⟩, hrest⟩ := List.forall_mem_cons.mp hended
    have hline : plain (line ++ ['\n']) = plain line ++ ['\n'] := plainAfter_append_newline (Nat.zero_le _) []
    rw [List.flatten_cons, List.flatMap_cons, ← ih hrest, hline, List.append_assoc, List.append_assoc]
    exact plainAfter_append_newline (Nat.zero_le _) texts.flatten

/-- A control sequence stands in the line or after it, and never across the newline. -/
theorem holdsControlSequence_append_newline {line rest : Text} :
    HoldsControlSequence (line ++ '\n' :: rest) ↔ HoldsControlSequence line ∨ HoldsControlSequence rest := by
  induction line with
  | nil =>
    have hnewline : '\n' ≠ escapeMark := by decide
    have hnil : ¬ HoldsControlSequence [] := not_holdsControlSequence_of_not_mem List.not_mem_nil
    rw [List.nil_append, holdsControlSequence_cons]
    simp [hnewline, hnil]
  | cons c line ih =>
    have hcontinues : ContinuesControl (line ++ '\n' :: rest) ↔ ContinuesControl line := by
      rw [← isSome_controlLength?_iff, ← isSome_controlLength?_iff, controlLength?_append_newline]
    rw [List.cons_append, holdsControlSequence_cons, holdsControlSequence_cons, ih, hcontinues, or_assoc]

theorem holdsControlSequence_flatMap_newline {lines : List Text} :
    HoldsControlSequence (lines.flatMap (· ++ ['\n'])) ↔ ∃ line ∈ lines, HoldsControlSequence line := by
  induction lines with
  | nil => simp [not_holdsControlSequence_of_not_mem]
  | cons line lines ih =>
    rw [List.flatMap_cons, List.append_assoc, List.singleton_append, holdsControlSequence_append_newline, ih]
    simp

end InstrDecl.Text
