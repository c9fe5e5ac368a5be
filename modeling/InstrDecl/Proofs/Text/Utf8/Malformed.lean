import InstrDecl.Proofs.Text.Utf8.Decode

namespace InstrDecl.Utf8

/-- Bytes that stand for no character, whatever follows them. -/
inductive Malformed : Bytes → Prop
  /-- A byte that continues a character where none has been begun. -/
  | stray {b : UInt8} (hb : IsContinuation b) : Malformed [b]
  | overlongTwo {value : Nat} (hvalue : value < 0x80) : Malformed (twoBytes value)
  | overlongThree {value : Nat} (hvalue : value < 0x800) : Malformed (threeBytes value)
  | overlongFour {value : Nat} (hvalue : value < 0x10000) : Malformed (fourBytes value)
  | surrogate {value : Nat} (hvalue : 0xd800 ≤ value ∧ value ≤ 0xdfff) : Malformed (threeBytes value)
  | beyondLast {value : Nat} (hvalue : 0x10ffff < value ∧ value < 0x200000) : Malformed (fourBytes value)
  /-- The first byte of a value that would need more than four bytes, or a byte that is never used. -/
  | beyondFour {b : UInt8} (hb : 0xf8 ≤ b.toNat) : Malformed [b]

/-- A character of several bytes has a first byte that begins it and a second that is admitted. -/
theorem exists_admits_of_isPrefix {b : UInt8} {more : Bytes} {c : Char} (hb : 0x80 ≤ b.toNat)
    (hstart : String.utf8EncodeChar c <+: b :: more) :
    ∃ begun second, begin? 0 b = some begun ∧ more.head? = some second ∧ begun.Admits second := by
  obtain ⟨b', tail, hencode⟩ := List.exists_cons_of_ne_nil (utf8EncodeChar_ne_nil c)
  rw [hencode] at hstart
  obtain ⟨rfl, rest, rfl⟩ := List.cons_prefix_cons.mp hstart
  obtain ⟨begun, hbegin, hcompletes⟩ := (utf8EncodeChar_eq_cons_iff 0 hb).mp hencode
  cases tail with
  | nil => exact absurd hcompletes id
  | cons second tail => exact ⟨begun, second, hbegin, rfl, hcompletes.1⟩

/-- Bytes that no character starts with, as the first of them begins none or the second does not fit
    the first. -/
theorem not_isPrefix_of_second {b second : UInt8} {more : Bytes} (c : Char) (hb : 0x80 ≤ b.toNat)
    (hsecond : b.toNat ≤ 0xc1 ∨ (b.toNat = 0xe0 ∧ second.toNat < 0xa0) ∨ (b.toNat = 0xed ∧ 0x9f < second.toNat) ∨
      (b.toNat = 0xf0 ∧ second.toNat < 0x90) ∨ (b.toNat = 0xf4 ∧ 0x8f < second.toNat) ∨ 0xf4 < b.toNat) :
    ¬ String.utf8EncodeChar c <+: b :: second :: more := by
  intro hstart
  obtain ⟨begun, second', hbegin, hhead, hlow, hhigh⟩ := exists_admits_of_isPrefix hb hstart
  obtain rfl := Option.some.inj hhead
  rcases lead_of_begin? hbegin with hlead | hlead | hlead
  · omega
  · obtain ⟨_, _, hlow', hhigh'⟩ := fields_of_three hbegin hlead
    omega
  · obtain ⟨_, _, hlow', hhigh'⟩ := fields_of_four hbegin hlead
    omega

theorem not_isPrefix_of_first {b : UInt8} (more : Bytes) (c : Char)
    (hb : IsContinuation b ∨ 0xf8 ≤ b.toNat) : ¬ String.utf8EncodeChar c <+: b :: more := by
  have hrange : 0x80 ≤ b.toNat ∧ (b.toNat ≤ 0xbf ∨ 0xf8 ≤ b.toNat) := by
    unfold IsContinuation at hb
    omega
  intro hstart
  obtain ⟨begun, _, hbegin, _⟩ := exists_admits_of_isPrefix hrange.1 hstart
  have hlead := lead_of_begin? hbegin
  omega

/-- No character stands at the start of malformed bytes. -/
theorem Malformed.not_isPrefix {bad : Bytes} (hbad : Malformed bad) (rest : Bytes) (c : Char) :
    ¬ String.utf8EncodeChar c <+: bad ++ rest := by
  cases hbad with
  | stray hb => exact not_isPrefix_of_first rest c (.inl hb)
  | beyondFour hb => exact not_isPrefix_of_first rest c (.inr hb)
  | @overlongTwo value hvalue =>
    have hfirst := toNat_ofNat_of_lt (by omega : 0xc0 + value / 64 < 256)
    exact not_isPrefix_of_second c (by omega) (by omega)
  | @overlongThree value hvalue =>
    have hfirst := toNat_ofNat_of_lt (by omega : 0xe0 + value / 4096 < 256)
    have hsecond := toNat_ofNat_of_lt (by omega : 0x80 + value / 64 % 64 < 256)
    exact not_isPrefix_of_second c (by omega) (by omega)
  | @overlongFour value hvalue =>
    have hfirst := toNat_ofNat_of_lt (by omega : 0xf0 + value / 262144 < 256)
    have hsecond := toNat_ofNat_of_lt (by omega : 0x80 + value / 4096 % 64 < 256)
    exact not_isPrefix_of_second c (by omega) (by omega)
  | @surrogate value hvalue =>
    have hfirst := toNat_ofNat_of_lt (by omega : 0xe0 + value / 4096 < 256)
    have hsecond := toNat_ofNat_of_lt (by omega : 0x80 + value / 64 % 64 < 256)
    exact not_isPrefix_of_second c (by omega) (by omega)
  | @beyondLast value hvalue =>
    have hfirst := toNat_ofNat_of_lt (by omega : 0xf0 + value / 262144 < 256)
    have hsecond := toNat_ofNat_of_lt (by omega : 0x80 + value / 4096 % 64 < 256)
    exact not_isPrefix_of_second c (by omega) (by omega)

/-- No character starts with another. -/
theorem eq_of_utf8EncodeChar_isPrefix {c c' : Char}
    (hstart : String.utf8EncodeChar c <+: String.utf8EncodeChar c') : c = c' := by
  obtain ⟨rest, hrest⟩ := hstart
  have hlong := decodeFrom_utf8EncodeChar 0 c' []
  rw [List.append_nil, ← hrest, decodeFrom_utf8EncodeChar] at hlong
  cases hmore : decodeFrom (0 + (String.utf8EncodeChar c).length) none rest with
  | error e =>
    rw [hmore] at hlong
    cases hlong
  | ok text =>
    rw [hmore] at hlong
    exact (List.cons.inj (Except.ok.inj hlong)).1

/-- No character stands at the start of bytes that end inside a character. -/
theorem Begins.not_isPrefix {run : Bytes} (hbegins : Begins run) (c : Char) : ¬ String.utf8EncodeChar c <+: run := by
  rintro hstart
  obtain ⟨c', rest, hrest, hencode⟩ := hbegins
  obtain rfl := eq_of_utf8EncodeChar_isPrefix (hencode ▸ hstart.trans (List.prefix_append run rest))
  have hlength := hstart.length_le
  have hpositive := List.length_pos_iff.mpr hrest
  rw [hencode, List.length_append] at hlength
  omega

/-- The decoder stops where no character stands. -/
theorem exists_decode_eq_error (text : Text) {bad : Bytes} (hne : bad ≠ [])
    (hbad : ∀ c, ¬ String.utf8EncodeChar c <+: bad) :
    ∃ e, decode (encode text ++ bad) = .error e ∧ e.position = (encode text).length := by
  rcases decodeFrom_cases (encode text).length hne with ⟨c, rest, rfl⟩ | ⟨part, fault, first, herror, _⟩
  · exact absurd (List.prefix_append _ rest) (hbad c)
  · refine ⟨⟨_, part.length, first, fault⟩, ?_, rfl⟩
    rw [decode, decodeFrom_encode, Nat.zero_add, herror]
    rfl

end InstrDecl.Utf8
