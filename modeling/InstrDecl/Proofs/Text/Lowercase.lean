import InstrDecl.Text.Character
import InstrDecl.Text.Lowercase

namespace InstrDecl.Text

/-- What holds of all ASCII characters can be found by looking at each. -/
theorem ascii_forall {p : Char → Prop} (hall : ∀ code < 128, p (Char.ofNat code)) (c : Char)
    (hascii : c.toNat < 128) : p c := by
  have hcode := hall c.toNat hascii
  rwa [Char.ofNat_toNat] at hcode

/-- A code point that is no character stands for the null character. -/
theorem ofNat_cases (code : Nat) : (Char.ofNat code).toNat = code ∨ Char.ofNat code = Char.ofNat 0 := by
  by_cases hvalid : code.isValidChar
  · left
    rw [Char.ofNat, dif_pos hvalid]
    rfl
  · right
    rw [Char.ofNat, dif_neg hvalid]
    rfl

theorem lowerAfter_eq_map {text : Text} (hascii : ∀ c ∈ text, c.toNat < 128) (before : Text) :
    lowerAfter before text = text.map Char.toLower := by
  induction text generalizing before with
  | nil => rfl
  | cons c rest ih =>
    have hc : c.toNat < 128 := hascii c List.mem_cons_self
    have hsigma : c.toNat ≠ 0x03a3 := by omega
    rw [lowerAfter, lowerAt, if_neg hsigma, lowerChar, if_pos hc,
      ih fun d hd => hascii d (List.mem_cons_of_mem _ hd)]
    rfl

/-- In ASCII the lowercase form of a text is that of its letters. -/
theorem lower_eq_map {text : Text} (hascii : ∀ c ∈ text, c.toNat < 128) :
    lower text = text.map Char.toLower :=
  lowerAfter_eq_map hascii []

/-- The range of code points that a run of case pairs leads to stays clear of all blanks. -/
def CaseRun.avoidsBlanks (run : CaseRun) : Bool :=
  blanks.all fun range => run.last + run.shift < range.first || range.last < run.first + run.shift

/-- No letter has a blank for its small letter. -/
theorem avoidsBlanks_of_mem_caseRuns : ∀ run ∈ caseRuns, run.avoidsBlanks = true := by
  decide +kernel

/-- The text with small letters for the capital letters of ASCII. -/
def asciiLower (text : Text) : Text :=
  text.map Char.toLower

/-- What holds of the capital letters of ASCII and their small letters, and of every character and
    itself, holds of every character and its small letter. -/
theorem toLower_forall {p : Char → Char → Prop}
    (hcapital : ∀ offset < 26, p (Char.ofNat (0x41 + offset)) (Char.ofNat (0x61 + offset)))
    (hsame : ∀ c, p c c) (c : Char) : p c c.toLower := by
  by_cases hascii : c.toNat < 128
  · have hcases : c.toLower = c ∨
        ∃ offset < 26, c = Char.ofNat (0x41 + offset) ∧ c.toLower = Char.ofNat (0x61 + offset) := by
      refine ascii_forall (p := fun c => c.toLower = c ∨
        ∃ offset < 26, c = Char.ofNat (0x41 + offset) ∧ c.toLower = Char.ofNat (0x61 + offset)) ?_ c hascii
      decide
    rcases hcases with hsmall | ⟨offset, hlt, hc, hsmall⟩
    · rw [hsmall]
      exact hsame c
    · rw [hsmall, hc]
      exact hcapital offset hlt
  · have hsmall : c.toLower = c := by
      delta Char.toLower
      refine dif_neg fun hcapital => ?_
      have hle : c.toNat ≤ 90 := UInt32.le_iff_toNat_le.mp hcapital.2
      omega
    rw [hsmall]
    exact hsame c

/-- Where blanks are does not depend on case. -/
theorem isBlank_toLower (c : Char) : isBlank c.toLower = isBlank c :=
  toLower_forall (p := fun c d => isBlank d = isBlank c) (by decide) (fun _ => rfl) c

theorem covers_cased_toLower (c : Char) : CodeRange.covers cased c.toLower = CodeRange.covers cased c :=
  toLower_forall (p := fun c d => CodeRange.covers cased d = CodeRange.covers cased c) (by decide +kernel)
    (fun _ => rfl) c

/-- Letters of ASCII separate other letters. -/
theorem covers_caseIgnorable_eq_false {c : Char}
    (hletter : 0x41 ≤ c.toNat ∧ c.toNat ≤ 0x5a ∨ 0x61 ≤ c.toNat ∧ c.toNat ≤ 0x7a) :
    CodeRange.covers caseIgnorable c = false := by
  have hranges : ∀ range ∈ caseIgnorable,
      range.last < 0x41 ∨ 0x5a < range.first ∧ range.last < 0x61 ∨ 0x7a < range.first := by
    decide +kernel
  rw [CodeRange.covers, List.any_eq_false]
  intro range hrange hcontains
  have hclear := hranges range hrange
  simp only [CodeRange.contains, Bool.and_eq_true, decide_eq_true_eq] at hcontains
  omega

theorem covers_caseIgnorable_toLower (c : Char) :
    CodeRange.covers caseIgnorable c.toLower = CodeRange.covers caseIgnorable c := by
  refine toLower_forall (p := fun c d => CodeRange.covers caseIgnorable d = CodeRange.covers caseIgnorable c)
    (fun offset hlt => ?_) (fun _ => rfl) c
  have hcodes : ∀ offset < 26, (Char.ofNat (0x41 + offset)).toNat = 0x41 + offset ∧
      (Char.ofNat (0x61 + offset)).toNat = 0x61 + offset := by
    decide
  obtain ⟨hcapital, hsmall⟩ := hcodes offset hlt
  rw [covers_caseIgnorable_eq_false (by omega), covers_caseIgnorable_eq_false (by omega)]

/-- A letter and its small letter have the same lowercase form. -/
theorem lowerChar_toLower (c : Char) : lowerChar c.toLower = lowerChar c :=
  toLower_forall (p := fun c d => lowerChar d = lowerChar c) (by decide) (fun _ => rfl) c

theorem toNat_toLower_eq_sigma_iff (c : Char) : c.toLower.toNat = 0x03a3 ↔ c.toNat = 0x03a3 :=
  toLower_forall (p := fun c d => d.toNat = 0x03a3 ↔ c.toNat = 0x03a3) (by decide) (fun _ => Iff.rfl) c

/-- A mark that is no letter is the small letter of nothing but itself. -/
theorem toLower_eq_mark_iff {mark : Char}
    (hmark : ∀ offset < 26, Char.ofNat (0x41 + offset) ≠ mark ∧ Char.ofNat (0x61 + offset) ≠ mark) (c : Char) :
    c.toLower = mark ↔ c = mark :=
  toLower_forall (p := fun c d => d = mark ↔ c = mark)
    (fun offset hlt => iff_of_false (hmark offset hlt).2 (hmark offset hlt).1) (fun _ => Iff.rfl) c

theorem reachesCased_asciiLower (text : Text) : reachesCased (asciiLower text) = reachesCased text := by
  have hignored : CodeRange.covers caseIgnorable ∘ Char.toLower = CodeRange.covers caseIgnorable :=
    funext covers_caseIgnorable_toLower
  rw [reachesCased, reachesCased, asciiLower, List.dropWhile_map, hignored]
  cases text.dropWhile (CodeRange.covers caseIgnorable) with
  | nil => rfl
  | cons c rest => exact covers_cased_toLower c

theorem lowerAt_asciiLower (before : Text) (c : Char) (after : Text) :
    lowerAt (asciiLower before) c.toLower (asciiLower after) = lowerAt before c after := by
  rw [lowerAt, lowerAt, reachesCased_asciiLower, reachesCased_asciiLower, lowerChar_toLower]
  simp only [toNat_toLower_eq_sigma_iff]

/-- The lowercase form is the same from anywhere in the text on, also where it depends on what is around. -/
theorem lowerAfter_asciiLower (before text : Text) :
    lowerAfter (asciiLower before) (asciiLower text) = lowerAfter before text := by
  induction text generalizing before with
  | nil => rfl
  | cons c rest ih =>
    have hfirst := lowerAt_asciiLower before c rest
    have hrest := ih (c :: before)
    rw [lowerAfter, ← hfirst, ← hrest]
    rfl

/-- The lowercase form of a text does not depend on the case of its ASCII letters. -/
theorem lower_asciiLower (text : Text) : lower (asciiLower text) = lower text :=
  lowerAfter_asciiLower [] text

theorem splitWhere_asciiLower {p : Char → Bool} (hp : ∀ c, p c.toLower = p c) (text : Text) :
    splitWhere p (asciiLower text) = (splitWhere p text).map asciiLower := by
  induction text with
  | nil => rfl
  | cons c rest ih =>
    have hcons : asciiLower (c :: rest) = c.toLower :: asciiLower rest := rfl
    rw [hcons, splitWhere, splitWhere, hp, ih]
    split
    · rfl
    · cases splitWhere p rest with
      | nil => rfl
      | cons part parts => rfl

/-- A text in small letters has the same pieces, in small letters. -/
theorem pieces_asciiLower (text : Text) : pieces (asciiLower text) = (pieces text).map asciiLower := by
  have hempty : (fun part : Text => !part.isEmpty) ∘ asciiLower = fun part => !part.isEmpty := by
    funext part
    cases part <;> rfl
  rw [pieces, splitWhere_asciiLower isBlank_toLower, List.filter_map, hempty, pieces]

theorem dropEndWhile_asciiLower {p : Char → Bool} (hp : ∀ c, p c.toLower = p c) (text : Text) :
    dropEndWhile p (asciiLower text) = asciiLower (dropEndWhile p text) := by
  have hsame : p ∘ Char.toLower = p := funext hp
  rw [dropEndWhile, asciiLower, ← List.map_reverse, List.dropWhile_map, hsame, ← List.map_reverse]
  rfl

end InstrDecl.Text
