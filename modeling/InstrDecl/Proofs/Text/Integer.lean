import InstrDecl.Proofs.Text.Split
import InstrDecl.Text.Literal
import Mathlib.Data.Nat.Digits.Lemmas

namespace InstrDecl.Text

/-- The character is the digit of this value in some script. -/
def IsDigit (c : Char) (digit : Nat) : Prop :=
  ∃ start ∈ decimalZeros, digit < 10 ∧ c.toNat = start + digit

/-- A row of digits of these values; a single underscore may stand between two digits. -/
inductive DigitRow : Text → List Nat → Prop
  | last {c : Char} {digit : Nat} (hdigit : IsDigit c digit) : DigitRow [c] [digit]
  | next {c : Char} {digit : Nat} {row : Text} {digits : List Nat} (hdigit : IsDigit c digit)
      (hrow : DigitRow row digits) : DigitRow (c :: row) (digit :: digits)
  | apart {c : Char} {digit : Nat} {row : Text} {digits : List Nat} (hdigit : IsDigit c digit)
      (hrow : DigitRow row digits) : DigitRow (c :: '_' :: row) (digit :: digits)

/-- The row is the decimal form of a number, with any leading zeros, and has not too many digits. -/
def Numeral (row : Text) (number : Nat) : Prop :=
  ∃ digits, DigitRow row digits ∧ digits.length ≤ maxDigits ∧ number = Nat.ofDigits 10 digits.reverse

/-- A numeral after a sign, or without one. -/
inductive SignedNumeral : Text → Int → Prop
  | unsigned {row : Text} {number : Nat} (hrow : Numeral row number) : SignedNumeral row number
  | plus {row : Text} {number : Nat} (hrow : Numeral row number) : SignedNumeral ('+' :: row) number
  | minus {row : Text} {number : Nat} (hrow : Numeral row number) : SignedNumeral ('-' :: row) (-number)

/-- The text denotes the integer: it is a numeral with margins around it. -/
def Denotes (text : Text) (n : Int) : Prop :=
  ∃ before numeral after, text = before ++ numeral ++ after ∧ (∀ c ∈ before, isNumberMargin c = true) ∧
    (∀ c ∈ after, isNumberMargin c = true) ∧ SignedNumeral numeral n

variable {c : Char} {digit number : Nat} {n : Int} {text row : Text} {digits : List Nat}

/-- The digits of one script are not those of another. -/
theorem decimalZeros_apart :
    ∀ start ∈ decimalZeros, ∀ other ∈ decimalZeros, start = other ∨ start + 10 ≤ other ∨ other + 10 ≤ start := by
  decide +kernel

/-- The digits of all scripts are found in the table of their zeros. -/
theorem decimalDigit?_eq_some_iff : decimalDigit? c = some digit ↔ IsDigit c digit := by
  unfold decimalDigit? IsDigit
  rw [Option.map_eq_some_iff]
  constructor
  · rintro ⟨start, hfind, rfl⟩
    have hstart := List.find?_some hfind
    simp only [Bool.and_eq_true, decide_eq_true_eq] at hstart
    exact ⟨start, List.mem_of_find?_eq_some hfind, by omega, by omega⟩
  · rintro ⟨start, hmem, hlt, hcode⟩
    have hsome : (decimalZeros.find? fun start => start ≤ c.toNat && c.toNat < start + 10).isSome = true := by
      rw [List.find?_isSome]
      exact ⟨start, hmem, by simp only [Bool.and_eq_true, decide_eq_true_eq]; omega⟩
    obtain ⟨found, hfind⟩ := Option.isSome_iff_exists.mp hsome
    have hfound := List.find?_some hfind
    simp only [Bool.and_eq_true, decide_eq_true_eq] at hfound
    have hapart := decimalZeros_apart start hmem found (List.mem_of_find?_eq_some hfind)
    exact ⟨found, hfind, by omega⟩

theorem decimalDigit?_underscore : decimalDigit? '_' = none := by
  decide

theorem IsDigit.not_margin (hdigit : IsDigit c digit) : isNumberMargin c = false := by
  have hapart : ∀ start ∈ decimalZeros, ∀ range ∈ blanks, range.last < start ∨ start + 10 ≤ range.first := by
    decide +kernel
  obtain ⟨start, hstart, hlt, hcode⟩ := hdigit
  have hblank : isBlank c = false := by
    rw [isBlank, CodeRange.covers, List.any_eq_false]
    intro range hrange
    have hoff := hapart start hstart range hrange
    rw [CodeRange.contains, Bool.and_eq_true, decide_eq_true_iff, decide_eq_true_iff]
    omega
  rw [isNumberMargin, hblank, Bool.false_and]

/-- A row begins with a digit, so it can be told from an underscore and from a sign. -/
theorem DigitRow.exists_cons (hrow : DigitRow row digits) : ∃ c digit rest, row = c :: rest ∧ IsDigit c digit := by
  cases hrow with
  | last hdigit => exact ⟨_, _, _, rfl, hdigit⟩
  | next hdigit _ => exact ⟨_, _, _, rfl, hdigit⟩
  | apart hdigit _ => exact ⟨_, _, _, rfl, hdigit⟩

/-- What is read as a row of digits is one. -/
theorem digitRow_of_digitRow? (hread : digitRow? row = some digits) : DigitRow row digits := by
  fun_induction digitRow? row generalizing digits with
  | case1 => cases hread
  | case2 => cases hread
  | case3 c digit hdigit =>
    cases hread
    exact .last (decimalDigit?_eq_some_iff.mp hdigit)
  | case4 c digit hdigit more ih =>
    obtain ⟨digits, hmore, rfl⟩ := Option.map_eq_some_iff.mp hread
    exact .apart (decimalDigit?_eq_some_iff.mp hdigit) (ih hmore)
  | case5 c digit hdigit next more _ ih =>
    obtain ⟨digits, hmore, rfl⟩ := Option.map_eq_some_iff.mp hread
    exact .next (decimalDigit?_eq_some_iff.mp hdigit) (ih hmore)

/-- Every row of digits is read as one. -/
theorem DigitRow.digitRow?_eq (hrow : DigitRow row digits) : digitRow? row = some digits := by
  induction hrow with
  | last hdigit => rw [digitRow?, decimalDigit?_eq_some_iff.mpr hdigit]
  | @next c digit row digits hdigit hrow ih =>
    obtain ⟨first, value, rest, rfl, hfirst⟩ := hrow.exists_cons
    have hne : first ≠ '_' := by
      rintro rfl
      rw [← decimalDigit?_eq_some_iff, decimalDigit?_underscore] at hfirst
      cases hfirst
    rw [digitRow?, decimalDigit?_eq_some_iff.mpr hdigit]
    simp [ih]
  | apart hdigit _ ih =>
    rw [digitRow?, decimalDigit?_eq_some_iff.mpr hdigit]
    simp [ih]

theorem digitsValue_eq_ofDigits (digits : List Nat) : digitsValue digits = Nat.ofDigits 10 digits.reverse := by
  induction digits using List.reverseRecOn with
  | nil => rfl
  | append_singleton digits digit ih =>
    rw [digitsValue] at ih ⊢
    rw [List.foldl_append, ih, List.reverse_append, List.reverse_singleton, List.singleton_append, Nat.ofDigits_cons,
      List.foldl_cons, List.foldl_nil, Nat.add_comm]

/-- A text is read as a number exactly if it is a numeral of it that is not too long. -/
theorem natural?_eq_some_iff : natural? row = some number ↔ Numeral row number := by
  unfold natural? Numeral
  cases hread : digitRow? row with
  | none =>
    constructor
    · intro hnone
      cases hnone
    · rintro ⟨digits, hrow, _⟩
      rw [hrow.digitRow?_eq] at hread
      cases hread
  | some digits =>
    dsimp only
    rw [digitsValue_eq_ofDigits]
    constructor
    · intro hvalue
      split at hvalue
      · next hlength =>
        cases hvalue
        exact ⟨digits, digitRow_of_digitRow? hread, hlength, rfl⟩
      · cases hvalue
    · rintro ⟨digits', hrow, hlength, rfl⟩
      rw [hrow.digitRow?_eq] at hread
      cases hread
      rw [if_pos hlength]

theorem DigitRow.not_margin (hrow : DigitRow row digits) : ∀ c ∈ row, isNumberMargin c = false := by
  induction hrow with
  | last hdigit => simpa using hdigit.not_margin
  | next hdigit _ ih => exact List.forall_mem_cons.mpr ⟨hdigit.not_margin, ih⟩
  | apart hdigit _ ih =>
    exact List.forall_mem_cons.mpr ⟨hdigit.not_margin, List.forall_mem_cons.mpr ⟨by decide, ih⟩⟩

theorem SignedNumeral.not_margin (hnumeral : SignedNumeral text n) :
    text ≠ [] ∧ ∀ c ∈ text, isNumberMargin c = false := by
  cases hnumeral with
  | unsigned hrow =>
    obtain ⟨digits, hrow, _⟩ := hrow
    obtain ⟨c, _, rest, rfl, _⟩ := hrow.exists_cons
    exact ⟨List.cons_ne_nil c rest, hrow.not_margin⟩
  | plus hrow | minus hrow =>
    obtain ⟨digits, hrow, _⟩ := hrow
    exact ⟨List.cons_ne_nil _ _, List.forall_mem_cons.mpr ⟨by decide, hrow.not_margin⟩⟩

/-- A sign is no digit, so what begins with one is no numeral without it. -/
theorem Numeral.head?_ne (hrow : Numeral row number) : row.head? ≠ some '+' ∧ row.head? ≠ some '-' := by
  have hplus : decimalDigit? '+' = none := by decide
  have hminus : decimalDigit? '-' = none := by decide
  obtain ⟨digits, hrow, _⟩ := hrow
  obtain ⟨c, digit, rest, rfl, hdigit⟩ := hrow.exists_cons
  rw [← decimalDigit?_eq_some_iff] at hdigit
  constructor
  · intro hhead
    cases hhead
    rw [hplus] at hdigit
    cases hdigit
  · intro hhead
    cases hhead
    rw [hminus] at hdigit
    cases hdigit

/-- What is left after trimming is a numeral exactly if the text is one with margins. -/
theorem signedNumeral_trimWhere_iff : SignedNumeral (trimWhere isNumberMargin text) n ↔ Denotes text n := by
  constructor
  · intro hnumeral
    obtain ⟨before, after, htext, hbefore, hafter⟩ := exists_eq_append_trimWhere isNumberMargin text
    exact ⟨before, _, after, htext, hbefore, hafter, hnumeral⟩
  · rintro ⟨before, numeral, after, rfl, hbefore, hafter, hnumeral⟩
    obtain ⟨hne, hkept⟩ := hnumeral.not_margin
    rwa [trimWhere_append_append hbefore hafter hne (hkept _ (List.head_mem hne)) (hkept _ (List.getLast_mem hne))]

/-- A text is read as an integer exactly if it denotes it. -/
theorem integer?_eq_some_iff : integer? text = some n ↔ Denotes text n := by
  rw [← signedNumeral_trimWhere_iff, integer?]
  split
  · next rest htrim =>
    rw [htrim, Option.map_eq_some_iff]
    constructor
    · rintro ⟨number, hrow, rfl⟩
      exact .plus (natural?_eq_some_iff.mp hrow)
    · rintro (hrow | hrow)
      · exact absurd rfl hrow.head?_ne.1
      · exact ⟨_, natural?_eq_some_iff.mpr hrow, rfl⟩
  · next rest htrim =>
    rw [htrim, Option.map_eq_some_iff]
    constructor
    · rintro ⟨number, hrow, rfl⟩
      exact .minus (natural?_eq_some_iff.mp hrow)
    · rintro (hrow | _ | hrow)
      · exact absurd rfl hrow.head?_ne.2
      · exact ⟨_, natural?_eq_some_iff.mpr hrow, rfl⟩
  · next hplus hminus =>
    rw [Option.map_eq_some_iff]
    constructor
    · rintro ⟨number, hrow, rfl⟩
      exact .unsigned (natural?_eq_some_iff.mp hrow)
    · intro hnumeral
      generalize trimWhere isNumberMargin text = numeral at *
      cases hnumeral with
      | unsigned hrow => exact ⟨_, natural?_eq_some_iff.mpr hrow, rfl⟩
      | plus => exact absurd rfl (hplus _)
      | minus => exact absurd rfl (hminus _)

/-- A text is refused exactly if it denotes no integer. -/
theorem integer?_eq_none_iff : integer? text = none ↔ ∀ n, ¬ Denotes text n := by
  rw [Option.eq_none_iff_forall_ne_some]
  exact forall_congr' fun n => not_congr integer?_eq_some_iff

theorem DigitRow.concat (hrow : DigitRow row digits) (hdigit : IsDigit c digit) :
    DigitRow (row ++ [c]) (digits ++ [digit]) := by
  induction hrow with
  | last hfirst => exact .next hfirst (.last hdigit)
  | next hfirst _ ih => exact .next hfirst ih
  | apart hfirst _ ih => exact .apart hfirst ih

theorem DigitRow.lt_ten (hrow : DigitRow row digits) : ∀ digit ∈ digits, digit < 10 := by
  have hsmall : ∀ {c : Char} {digit : Nat}, IsDigit c digit → digit < 10 := fun ⟨_, _, hlt, _⟩ => hlt
  induction hrow with
  | last hdigit => simpa using hsmall hdigit
  | next hdigit _ ih | apart hdigit _ ih => exact List.forall_mem_cons.mpr ⟨hsmall hdigit, ih⟩

theorem isDigit_digitChar : ∀ digit < 10, IsDigit (Nat.digitChar digit) digit := by
  have hcode : ∀ digit < 10, (Nat.digitChar digit).toNat = 0x30 + digit := by decide
  exact fun digit hlt => ⟨0x30, List.mem_cons_self, hlt, hcode digit hlt⟩

/-- The usual decimal form of a number is a row of its digits. -/
theorem exists_digitRow_ofNat (number : Nat) :
    ∃ digits, DigitRow (ofNat number) digits ∧ digits.length = (ofNat number).length ∧
      number = Nat.ofDigits 10 digits.reverse := by
  unfold ofNat
  induction number using Nat.strongRecOn with
  | ind number ih =>
    rw [Nat.toDigits_eq_if (by omega)]
    split
    · next hlt => exact ⟨[number], .last (isDigit_digitChar number hlt), rfl, by simp⟩
    · obtain ⟨digits, hrow, hlength, hvalue⟩ := ih (number / 10) (by omega)
      have hdigit := isDigit_digitChar (number % 10) (by omega)
      refine ⟨digits ++ [number % 10], hrow.concat hdigit, by simp [hlength], ?_⟩
      rw [List.reverse_append, List.reverse_singleton, List.singleton_append, Nat.ofDigits_cons, ← hvalue]
      omega

theorem Numeral.length_le (hrow : Numeral row number) : (ofNat number).length ≤ maxDigits := by
  obtain ⟨digits, hrow, hlength, rfl⟩ := hrow
  have hbound := Nat.ofDigits_lt_base_pow_length (b := 10) (by omega) fun digit hdigit =>
    hrow.lt_ten digit (List.mem_reverse.mp hdigit)
  rw [List.length_reverse] at hbound
  exact (Nat.length_toDigits_le_iff (by omega) (by decide)).mpr
    (hbound.trans_le (Nat.pow_le_pow_right (by omega) hlength))

/-- An integer can be written exactly if it has at most so many digits. -/
theorem exists_denotes_iff : (∃ text, Denotes text n) ↔ (ofNat n.natAbs).length ≤ maxDigits := by
  constructor
  · rintro ⟨text, before, numeral, after, -, -, -, hnumeral⟩
    cases hnumeral with
    | unsigned hrow | plus hrow => exact hrow.length_le
    | minus hrow =>
      rw [Int.natAbs_neg]
      exact hrow.length_le
  · intro hlength
    obtain ⟨digits, hrow, hcount, hvalue⟩ := exists_digitRow_ofNat n.natAbs
    have hnumeral : Numeral (ofNat n.natAbs) n.natAbs := ⟨digits, hrow, hcount ▸ hlength, hvalue⟩
    obtain ⟨numeral, hsigned⟩ : ∃ numeral, SignedNumeral numeral n := by
      rcases Int.natAbs_eq n with hn | hn
      · rw [hn]
        exact ⟨_, .unsigned hnumeral⟩
      · rw [hn]
        exact ⟨_, .minus hnumeral⟩
    exact ⟨numeral, [], numeral, [], by simp, by simp, by simp, hsigned⟩

end InstrDecl.Text
