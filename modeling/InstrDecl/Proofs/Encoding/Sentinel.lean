import InstrDecl.Encoding.Extraction
import InstrDecl.Proofs.Declaration.Fields
import InstrDecl.Proofs.Template.Rendering

namespace InstrDecl

/-- A sentinel is made of hexadecimal digits, the mark before them, and minus signs if the byte is
    negative. -/
theorem forall_mem_sentinelLiteral {p : Char → Prop} (hmark : p 'x') (hminus : p '-')
    (hdigit : ∀ digit < 16, p (Nat.digitChar digit)) (width : Nat) (byte : Int) :
    ∀ c ∈ sentinelLiteral width byte, p c := by
  have hpair : ∀ c ∈ Text.hexPair byte, p c := by
    cases byte with
    | ofNat n => exact Text.forall_mem_hexPadded hdigit 2 n
    | negSucc n =>
      intro c hc
      rcases List.mem_cons.mp hc with rfl | hdigits
      · exact hminus
      · exact Text.forall_mem_hexPadded hdigit 1 (n + 1) c hdigits
  have hopening : ∀ c ∈ ("0x" : Text), p c := by
    intro c hc
    rcases List.mem_cons.mp hc with rfl | hx
    · exact hdigit 0 (by omega)
    · rw [List.mem_singleton.mp hx]
      exact hmark
  intro c hc
  rcases List.mem_append.mp hc with hfirst | hrest
  · exact hopening c hfirst
  · obtain ⟨pair, hmem, hcpair⟩ := List.mem_flatten.mp hrest
    rw [List.eq_of_mem_replicate hmem] at hcpair
    exact hpair c hcpair

/-- A sentinel is read as a word, even one for an integer that is no byte. -/
theorem readsAsWord_sentinelLiteral (width : Nat) (byte : Int) : (sentinelLiteral width byte).ReadsAsWord := by
  have hchars : ∀ c ∈ sentinelLiteral width byte, Text.isBlank c = false ∧ c ≠ ',' := by
    apply forall_mem_sentinelLiteral
    · decide
    · decide
    · decide
  obtain ⟨rest, hrest⟩ : ∃ rest, sentinelLiteral width byte = '0' :: rest := ⟨_, rfl⟩
  constructor
  · rw [hrest]
    exact List.cons_ne_nil '0' rest
  · exact fun c hc => (hchars c hc).1
  · rw [hrest]
    simp
  · rw [hrest]
    simp
  · intro hlast
    exact (hchars ',' (List.mem_of_getLast? hlast)).2 rfl

/-- The bytes of a number, the lowest first. -/
def littleEndian : Nat → Nat → Bytes
  | 0, _ => []
  | width + 1, number => UInt8.ofNat (number % 256) :: littleEndian width (number / 256)

/-- The number that a sentinel of the given width denotes. -/
def sentinelNumber (b : UInt8) : Nat → Nat
  | 0 => 0
  | width + 1 => 256 * sentinelNumber b width + b.toNat

theorem hexValue?_replicate (b : UInt8) (width : Nat) :
    Text.hexValue? 0 (List.replicate width (Text.hexByte b)).flatten = some (sentinelNumber b width) := by
  induction width with
  | zero => rfl
  | succ width ih =>
    rw [List.replicate_succ', List.flatten_append, Text.hexValue?_append, ih, Option.bind_some,
      List.flatten_singleton, Text.hexValue?_hexByte, sentinelNumber]

/-- The sentinel of a byte is written as two digits for each byte of the operand, leading zeros
    included. -/
theorem hexNumber?_sentinelLiteral (b : UInt8) {width : Nat} (hwidth : 0 < width) :
    Text.hexNumber? (sentinelLiteral width b.toNat) = some (sentinelNumber b width) := by
  have hvalue := hexValue?_replicate b width
  have hliteral : sentinelLiteral width b.toNat = '0' :: 'x' :: (List.replicate width (Text.hexByte b)).flatten := rfl
  rw [hliteral]
  cases hdigits : (List.replicate width (Text.hexByte b)).flatten with
  | nil =>
    have hempty := List.flatten_eq_nil_iff.mp hdigits (Text.hexByte b)
      (List.mem_replicate.mpr ⟨by omega, rfl⟩)
    rw [Text.hexByte_eq_digits] at hempty
    cases hempty
  | cons c rest =>
    rw [hdigits] at hvalue
    exact hvalue

/-- Every byte of the sentinel is the chosen one. -/
theorem littleEndian_sentinelNumber (b : UInt8) (width : Nat) :
    littleEndian width (sentinelNumber b width) = List.replicate width b := by
  induction width with
  | zero => rfl
  | succ width ih =>
    have hlt := b.toNat_lt
    have hlow : (256 * sentinelNumber b width + b.toNat) % 256 = b.toNat := by omega
    have hhigh : (256 * sentinelNumber b width + b.toNat) / 256 = sentinelNumber b width := by omega
    rw [sentinelNumber, littleEndian, hlow, hhigh, ih, UInt8.ofNat_toNat, List.replicate_succ]

end InstrDecl
