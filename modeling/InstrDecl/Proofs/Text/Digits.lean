import InstrDecl.Text.Literal

namespace InstrDecl.Text

/-- No two numbers are written alike. -/
theorem ofNat_injective {n n' : Nat} (hsame : ofNat n = ofNat n') : n = n' := by
  have hread : ∀ n, Nat.ofDigitChars 10 (ofNat n) 0 = n :=
    fun _ => Nat.ofDigitChars_toDigits (by decide) (by decide)
  rw [← hread n, hsame, hread n']

theorem not_mem_ofNat {c : Char} (hc : c.isDigit = false) (n : Nat) : c ∉ ofNat n := by
  intro hmem
  have hdigit := Nat.isDigit_of_mem_toDigits (by decide) (by decide) hmem
  rw [hc] at hdigit
  cases hdigit

theorem forall_mem_toDigits {p : Char → Prop} (hdigit : ∀ digit < 16, p (Nat.digitChar digit)) (n : Nat) :
    ∀ c ∈ Nat.toDigits 16 n, p c := by
  induction n using Nat.strongRecOn with
  | ind n ih =>
    rw [Nat.toDigits_eq_if (by omega)]
    split
    · next hsmall =>
      intro c hc
      rw [List.mem_singleton.mp hc]
      exact hdigit n hsmall
    · intro c hc
      rcases List.mem_append.mp hc with hhigh | hlow
      · exact ih (n / 16) (by omega) c hhigh
      · rw [List.mem_singleton.mp hlow]
        exact hdigit (n % 16) (Nat.mod_lt n (by omega))

/-- A number in hexadecimal, padded or not, is made of the sixteen digits. -/
theorem forall_mem_hexPadded {p : Char → Prop} (hdigit : ∀ digit < 16, p (Nat.digitChar digit)) (width n : Nat) :
    ∀ c ∈ hexPadded width n, p c := by
  intro c hc
  rcases List.mem_append.mp hc with hzero | hdigits
  · rw [List.eq_of_mem_replicate hzero]
    exact hdigit 0 (by omega)
  · exact forall_mem_toDigits hdigit n c hdigits

theorem hexByte_eq_digits (b : UInt8) :
    hexByte b = [Nat.digitChar (b.toNat / 16), Nat.digitChar (b.toNat % 16)] := by
  have hall : ∀ n < 256, hexPadded 2 n = [Nat.digitChar (n / 16), Nat.digitChar (n % 16)] := by
    decide +kernel
  exact hall b.toNat b.toNat_lt

/-- The value of a hexadecimal digit. -/
def hexDigit? (c : Char) : Option Nat :=
  ("0123456789abcdef" : Text).idxOf? c.toLower

/-- The number that digits denote when they follow the digits of `value`. -/
def hexValue? (value : Nat) : Text → Option Nat
  | [] => some value
  | c :: rest => (hexDigit? c).bind fun digit => hexValue? (16 * value + digit) rest

/-- The number that is written in hexadecimal, with the mark before its digits. -/
def hexNumber? : Text → Option Nat
  | '0' :: 'x' :: c :: rest => hexValue? 0 (c :: rest)
  | _ => none

theorem hexDigit?_digitChar : ∀ digit < 16, hexDigit? (Nat.digitChar digit) = some digit := by
  decide

theorem hexValue?_append (value : Nat) (first second : Text) :
    hexValue? value (first ++ second) = (hexValue? value first).bind (hexValue? · second) := by
  induction first generalizing value with
  | nil => rfl
  | cons c rest ih =>
    rw [List.cons_append, hexValue?, hexValue?]
    cases hexDigit? c with
    | none => rfl
    | some digit => exact ih (16 * value + digit)

/-- The two digits of a byte add one byte to the number before them. -/
theorem hexValue?_hexByte (value : Nat) (b : UInt8) : hexValue? value (hexByte b) = some (256 * value + b.toNat) := by
  have hlt := b.toNat_lt
  rw [hexByte_eq_digits, hexValue?, hexDigit?_digitChar _ (by omega), Option.bind_some, hexValue?,
    hexDigit?_digitChar _ (by omega), Option.bind_some, hexValue?]
  congr 1
  omega

/-- The two digits of a byte tell which it is. -/
theorem hexByte_injective {b b' : UInt8} (hsame : hexByte b = hexByte b') : b = b' := by
  have hvalue := congrArg (hexValue? 0) hsame
  rw [hexValue?_hexByte, hexValue?_hexByte, Option.some.injEq] at hvalue
  apply UInt8.toNat_inj.mp
  omega

end InstrDecl.Text
