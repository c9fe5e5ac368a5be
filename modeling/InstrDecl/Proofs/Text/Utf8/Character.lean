import InstrDecl.Text.Utf8

namespace InstrDecl.Utf8

/-- The bits of a value as the two bytes of a character hold them, whether they are one or not. -/
def twoBytes (value : Nat) : Bytes :=
  [.ofNat (0xc0 + value / 64), .ofNat (0x80 + value % 64)]

/-- The bits of a value as the three bytes of a character hold them, whether they are one or not. -/
def threeBytes (value : Nat) : Bytes :=
  [.ofNat (0xe0 + value / 4096), .ofNat (0x80 + value / 64 % 64), .ofNat (0x80 + value % 64)]

/-- The bits of a value as the four bytes of a character hold them, whether they are one or not. -/
def fourBytes (value : Nat) : Bytes :=
  [.ofNat (0xf0 + value / 262144), .ofNat (0x80 + value / 4096 % 64), .ofNat (0x80 + value / 64 % 64),
   .ofNat (0x80 + value % 64)]

theorem toNat_lt (c : Char) : c.toNat < 0x110000 ∧ ¬ (0xd800 ≤ c.toNat ∧ c.toNat ≤ 0xdfff) := by
  have hvalid : c.toNat < 0xd800 ∨ 0xdfff < c.toNat ∧ c.toNat < 0x110000 := c.valid
  omega

theorem toNat_ofNat_of_lt {n : Nat} (hn : n < 256) : (UInt8.ofNat n).toNat = n := by
  rw [UInt8.toNat_ofNat']
  exact Nat.mod_eq_of_lt hn

theorem ofNat_eq {n : Nat} {b : UInt8} (hn : n = b.toNat) : UInt8.ofNat n = b := by
  rw [hn, UInt8.ofNat_toNat]

theorem toNat_eq_of_eq_ofNat {n : Nat} {c : Char} (hvalid : n < 0xd800 ∨ 0xdfff < n ∧ n < 0x110000)
    (hc : c = Char.ofNat n) : c.toNat = n := by
  rw [hc, Char.ofNat, dif_pos hvalid]
  rfl

theorem eq_ofNat_of_toNat_eq {n : Nat} {c : Char} (hc : n = c.toNat) : c = Char.ofNat n := by
  rw [hc, Char.ofNat_toNat]

/-- A character has as few bytes as its bits need. -/
theorem utf8EncodeChar_eq (c : Char) :
    String.utf8EncodeChar c =
      if c.toNat < 0x80 then [.ofNat c.toNat]
      else if c.toNat < 0x800 then twoBytes c.toNat
      else if c.toNat < 0x10000 then threeBytes c.toNat
      else fourBytes c.toNat := by
  have hc := toNat_lt c
  have hval : c.val.toNat = c.toNat := rfl
  unfold String.utf8EncodeChar twoBytes threeBytes fourBytes
  dsimp only
  rw [hval]
  by_cases hone : c.toNat < 0x80
  · rw [if_pos (by omega : c.toNat ≤ 127), if_pos hone]
  rw [if_neg (by omega : ¬ c.toNat ≤ 127), if_neg hone]
  by_cases htwo : c.toNat < 0x800
  · rw [if_pos (by omega : c.toNat ≤ 2047), if_pos htwo, Nat.mod_eq_of_lt (by omega : c.toNat / 64 < 32),
      Nat.add_comm 0xc0, Nat.add_comm 0x80]
  rw [if_neg (by omega : ¬ c.toNat ≤ 2047), if_neg htwo]
  by_cases hthree : c.toNat < 0x10000
  · rw [if_pos (by omega : c.toNat ≤ 65535), if_pos hthree, Nat.mod_eq_of_lt (by omega : c.toNat / 4096 < 16),
      Nat.add_comm 0xe0, Nat.add_comm 0x80, Nat.add_comm 0x80]
  · rw [if_neg (by omega : ¬ c.toNat ≤ 65535), if_neg hthree, Nat.mod_eq_of_lt (by omega : c.toNat / 262144 < 8),
      Nat.add_comm 0xf0, Nat.add_comm 0x80, Nat.add_comm 0x80, Nat.add_comm 0x80]

/-- What a first byte begins, by the number of bytes. -/
theorem begin?_eq (position : Nat) (b : UInt8) :
    begin? position b =
      if 0xc2 ≤ b.toNat ∧ b.toNat ≤ 0xdf then some ⟨position, b, 1, 1, 0x80, 0xbf, b.toNat - 0xc0⟩
      else if 0xe0 ≤ b.toNat ∧ b.toNat ≤ 0xef then
        some ⟨position, b, 1, 2, if b.toNat = 0xe0 then 0xa0 else 0x80, if b.toNat = 0xed then 0x9f else 0xbf,
          b.toNat - 0xe0⟩
      else if 0xf0 ≤ b.toNat ∧ b.toNat ≤ 0xf4 then
        some ⟨position, b, 1, 3, if b.toNat = 0xf0 then 0x90 else 0x80, if b.toNat = 0xf4 then 0x8f else 0xbf,
          b.toNat - 0xf0⟩
      else none := by
  simp only [begin?, Bool.and_eq_true, decide_eq_true_eq, UInt8.le_iff_toNat_le, ← UInt8.toNat_inj,
    UInt8.reduceToNat]
  grind

/-- A byte that is not the first of a character. -/
def IsContinuation (b : UInt8) : Prop :=
  0x80 ≤ b.toNat ∧ b.toNat ≤ 0xbf

namespace Begun

variable {begun : Begun} {bytes : Bytes} {c : Char}

/-- The bits that have been read, with those of one more byte. -/
def bitsWith (begun : Begun) (b : UInt8) : Nat :=
  begun.bits * 64 + (b.toNat - 0x80)

/-- The character with one more byte read, when more are needed after that. -/
def next (begun : Begun) (b : UInt8) : Begun :=
  { begun with
    read := begun.read + 1, needed := begun.needed - 1, low := 0x80, high := 0xbf, bits := begun.bitsWith b }

theorem needed_next (begun : Begun) (b : UInt8) : (begun.next b).needed = begun.needed - 1 :=
  rfl

/-- The byte lies within the bounds of the next one. -/
def Admits (begun : Begun) (b : UInt8) : Prop :=
  begun.low.toNat ≤ b.toNat ∧ b.toNat ≤ begun.high.toNat

/-- These bytes complete what has been begun, and the character is this one. -/
def Completes (begun : Begun) : Bytes → Char → Prop
  | [], _ => False
  | b :: rest, c => begun.Admits b ∧
    if begun.needed ≤ 1 then rest = [] ∧ c = Char.ofNat (begun.bitsWith b) else (begun.next b).Completes rest c

/-- The last byte of a character is one that the bytes before it admit. -/
theorem completes_last_iff (hneeded : begun.needed ≤ 1) :
    begun.Completes bytes c ↔ ∃ b, bytes = [b] ∧ begun.Admits b ∧ c = Char.ofNat (begun.bitsWith b) := by
  cases bytes with
  | nil => simp [Completes]
  | cons b rest =>
    rw [Completes, if_pos hneeded]
    constructor
    · rintro ⟨hadmits, rfl, hc⟩
      exact ⟨b, rfl, hadmits, hc⟩
    · rintro ⟨b', hsame, hadmits, hc⟩
      obtain ⟨rfl, rfl⟩ := List.cons.inj hsame
      exact ⟨hadmits, rfl, hc⟩

/-- Of a character that needs more bytes, the next one is admitted and the others complete what it begins. -/
theorem completes_more_iff (hneeded : 1 < begun.needed) :
    begun.Completes bytes c ↔ ∃ b rest, bytes = b :: rest ∧ begun.Admits b ∧ (begun.next b).Completes rest c := by
  cases bytes with
  | nil => simp [Completes]
  | cons b rest =>
    rw [Completes, if_neg (by omega)]
    constructor
    · rintro ⟨hadmits, hrest⟩
      exact ⟨b, rest, rfl, hadmits, hrest⟩
    · rintro ⟨b', rest', hsame, hadmits, hrest⟩
      obtain ⟨rfl, rfl⟩ := List.cons.inj hsame
      exact ⟨hadmits, hrest⟩

theorem completes_two_iff (hneeded : begun.needed = 2) :
    begun.Completes bytes c ↔ ∃ second third, bytes = [second, third] ∧ begun.Admits second ∧ IsContinuation third ∧
      c = Char.ofNat ((begun.bits * 64 + (second.toNat - 0x80)) * 64 + (third.toNat - 0x80)) := by
  have hnext : ∀ b, (begun.next b).needed ≤ 1 := by
    intro b
    rw [needed_next]
    omega
  rw [completes_more_iff (by omega)]
  constructor
  · rintro ⟨second, _, rfl, hsecond, hrest⟩
    obtain ⟨third, rfl, hthird, hc⟩ := (completes_last_iff (hnext second)).mp hrest
    exact ⟨second, third, rfl, hsecond, hthird, hc⟩
  · rintro ⟨second, third, rfl, hsecond, hthird, hc⟩
    exact ⟨second, [third], rfl, hsecond, (completes_last_iff (hnext second)).mpr ⟨third, rfl, hthird, hc⟩⟩

theorem completes_three_iff (hneeded : begun.needed = 3) :
    begun.Completes bytes c ↔ ∃ second third fourth, bytes = [second, third, fourth] ∧ begun.Admits second ∧
      IsContinuation third ∧ IsContinuation fourth ∧
      c = Char.ofNat (((begun.bits * 64 + (second.toNat - 0x80)) * 64 + (third.toNat - 0x80)) * 64 +
        (fourth.toNat - 0x80)) := by
  have hnext : ∀ b, (begun.next b).needed = 2 := by
    intro b
    rw [needed_next]
    omega
  rw [completes_more_iff (by omega)]
  constructor
  · rintro ⟨second, _, rfl, hsecond, hrest⟩
    obtain ⟨third, fourth, rfl, hthird, hfourth, hc⟩ := (completes_two_iff (hnext second)).mp hrest
    exact ⟨second, third, fourth, rfl, hsecond, hthird, hfourth, hc⟩
  · rintro ⟨second, third, fourth, rfl, hsecond, hthird, hfourth, hc⟩
    exact ⟨second, [third, fourth], rfl, hsecond,
      (completes_two_iff (hnext second)).mpr ⟨third, fourth, rfl, hthird, hfourth, hc⟩⟩

theorem low_next_le_high (begun : Begun) (b : UInt8) : (begun.next b).low.toNat ≤ (begun.next b).high.toNat := by
  simp [next]

theorem Completes.ne_nil (hcompletes : begun.Completes bytes c) : bytes ≠ [] := by
  rintro rfl
  exact hcompletes

/-- What has been begun can be completed, as long as some byte is admitted next. -/
theorem exists_completes (hbounds : begun.low.toNat ≤ begun.high.toNat) : ∃ bytes c, begun.Completes bytes c := by
  have hfirst : begun.Admits begun.low := ⟨Nat.le_refl _, hbounds⟩
  induction hneeded : begun.needed generalizing begun with
  | zero => exact ⟨_, _, (completes_last_iff (by omega)).mpr ⟨begun.low, rfl, hfirst, rfl⟩⟩
  | succ needed ih =>
    by_cases hlast : needed = 0
    · exact ⟨_, _, (completes_last_iff (by omega)).mpr ⟨begun.low, rfl, hfirst, rfl⟩⟩
    · have hlater := begun.low_next_le_high begun.low
      obtain ⟨rest, c, hrest⟩ := ih hlater ⟨Nat.le_refl _, hlater⟩ (by rw [needed_next]; omega)
      exact ⟨_, c, (completes_more_iff (by omega)).mpr ⟨begun.low, rest, rfl, hfirst, hrest⟩⟩

end Begun

/-- One byte has a bound of its own. -/
theorem toNat_ite_cases (b : UInt8) (special : Nat) (bound bound' : UInt8) :
    b.toNat = special ∧ (if b.toNat = special then bound else bound').toNat = bound.toNat ∨
      b.toNat ≠ special ∧ (if b.toNat = special then bound else bound').toNat = bound'.toNat := by
  by_cases hb : b.toNat = special
  · exact .inl ⟨hb, by rw [if_pos hb]⟩
  · exact .inr ⟨hb, by rw [if_neg hb]⟩

section Completes

variable {position : Nat} {b : UInt8} {begun : Begun} {tail : Bytes} {c : Char}
  (hbegin : begin? position b = some begun)

include hbegin

/-- After a first byte for two, the second completes exactly the characters that are encoded so. -/
theorem completes_iff_twoBytes (hlead : 0xc2 ≤ b.toNat ∧ b.toNat ≤ 0xdf) :
    begun.Completes tail c ↔ (0x80 ≤ c.toNat ∧ c.toNat < 0x800) ∧ twoBytes c.toNat = b :: tail := by
  rw [begin?_eq, if_pos hlead] at hbegin
  obtain rfl := Option.some.inj hbegin
  rw [Begun.completes_last_iff (Nat.le_refl 1)]
  constructor
  · rintro ⟨second, rfl, hadmits, hbits⟩
    have hsecond : 0x80 ≤ second.toNat ∧ second.toNat ≤ 0xbf := hadmits
    have hvalue : c.toNat = (b.toNat - 0xc0) * 64 + (second.toNat - 0x80) :=
      toNat_eq_of_eq_ofNat (by omega) hbits
    refine ⟨by omega, ?_⟩
    rw [twoBytes, ofNat_eq (b := b) (by omega), ofNat_eq (b := second) (by omega)]
  · rintro ⟨hrange, hbytes⟩
    obtain ⟨hfirst, rfl⟩ := List.cons.inj hbytes
    have hfirst : b.toNat = 0xc0 + c.toNat / 64 := by rw [← hfirst, toNat_ofNat_of_lt (by omega)]
    have hsecond := toNat_ofNat_of_lt (by omega : 0x80 + c.toNat % 64 < 256)
    generalize UInt8.ofNat (0x80 + c.toNat % 64) = second at hsecond
    have hadmits : 0x80 ≤ second.toNat ∧ second.toNat ≤ 0xbf := by omega
    have hvalue : (b.toNat - 0xc0) * 64 + (second.toNat - 0x80) = c.toNat := by omega
    exact ⟨second, rfl, hadmits, eq_ofNat_of_toNat_eq hvalue⟩

theorem fields_of_three (hlead : 0xe0 ≤ b.toNat ∧ b.toNat ≤ 0xef) :
    begun.needed = 2 ∧ begun.bits = b.toNat - 0xe0 ∧
      (b.toNat = 0xe0 ∧ begun.low.toNat = 0xa0 ∨ b.toNat ≠ 0xe0 ∧ begun.low.toNat = 0x80) ∧
      (b.toNat = 0xed ∧ begun.high.toNat = 0x9f ∨ b.toNat ≠ 0xed ∧ begun.high.toNat = 0xbf) := by
  rw [begin?_eq, if_neg (by omega), if_pos hlead] at hbegin
  obtain rfl := Option.some.inj hbegin
  exact ⟨rfl, rfl, toNat_ite_cases b 0xe0 0xa0 0x80, toNat_ite_cases b 0xed 0x9f 0xbf⟩

/-- After a first byte for three, the bounds on the second keep out overlong forms and surrogates. -/
theorem completes_iff_threeBytes (hlead : 0xe0 ≤ b.toNat ∧ b.toNat ≤ 0xef) :
    begun.Completes tail c ↔ (0x800 ≤ c.toNat ∧ c.toNat < 0x10000) ∧ threeBytes c.toNat = b :: tail := by
  have hc := toNat_lt c
  obtain ⟨hneeded, hbits, hlow, hhigh⟩ := fields_of_three hbegin hlead
  rw [Begun.completes_two_iff hneeded]
  constructor
  · rintro ⟨second, third, rfl, ⟨hsecond, hsecond'⟩, ⟨hthird, hthird'⟩, hvalue⟩
    have hvalue := toNat_eq_of_eq_ofNat (by omega) hvalue
    refine ⟨by omega, ?_⟩
    rw [threeBytes, ofNat_eq (b := b) (by omega), ofNat_eq (b := second) (by omega), ofNat_eq (b := third) (by omega)]
  · rintro ⟨hrange, hbytes⟩
    obtain ⟨hfirst, rfl⟩ := List.cons.inj hbytes
    have hfirst : b.toNat = 0xe0 + c.toNat / 4096 := by rw [← hfirst, toNat_ofNat_of_lt (by omega)]
    have hsecond := toNat_ofNat_of_lt (by omega : 0x80 + c.toNat / 64 % 64 < 256)
    have hthird := toNat_ofNat_of_lt (by omega : 0x80 + c.toNat % 64 < 256)
    refine ⟨_, _, rfl, ⟨by omega, by omega⟩, ⟨by omega, by omega⟩, eq_ofNat_of_toNat_eq (by omega)⟩

theorem fields_of_four (hlead : 0xf0 ≤ b.toNat ∧ b.toNat ≤ 0xf4) :
    begun.needed = 3 ∧ begun.bits = b.toNat - 0xf0 ∧
      (b.toNat = 0xf0 ∧ begun.low.toNat = 0x90 ∨ b.toNat ≠ 0xf0 ∧ begun.low.toNat = 0x80) ∧
      (b.toNat = 0xf4 ∧ begun.high.toNat = 0x8f ∨ b.toNat ≠ 0xf4 ∧ begun.high.toNat = 0xbf) := by
  rw [begin?_eq, if_neg (by omega), if_neg (by omega), if_pos hlead] at hbegin
  obtain rfl := Option.some.inj hbegin
  exact ⟨rfl, rfl, toNat_ite_cases b 0xf0 0x90 0x80, toNat_ite_cases b 0xf4 0x8f 0xbf⟩

/-- After a first byte for four, the bounds on the second keep out overlong forms and all above the last
    character. -/
theorem completes_iff_fourBytes (hlead : 0xf0 ≤ b.toNat ∧ b.toNat ≤ 0xf4) :
    begun.Completes tail c ↔ 0x10000 ≤ c.toNat ∧ fourBytes c.toNat = b :: tail := by
  have hc := toNat_lt c
  obtain ⟨hneeded, hbits, hlow, hhigh⟩ := fields_of_four hbegin hlead
  rw [Begun.completes_three_iff hneeded]
  constructor
  · rintro ⟨second, third, fourth, rfl, ⟨hsecond, hsecond'⟩, ⟨hthird, hthird'⟩, ⟨hfourth, hfourth'⟩, hvalue⟩
    have hvalue := toNat_eq_of_eq_ofNat (by omega) hvalue
    refine ⟨by omega, ?_⟩
    rw [fourBytes, ofNat_eq (b := b) (by omega), ofNat_eq (b := second) (by omega), ofNat_eq (b := third) (by omega),
      ofNat_eq (b := fourth) (by omega)]
  · rintro ⟨hrange, hbytes⟩
    obtain ⟨hfirst, rfl⟩ := List.cons.inj hbytes
    have hfirst : b.toNat = 0xf0 + c.toNat / 262144 := by rw [← hfirst, toNat_ofNat_of_lt (by omega)]
    have hsecond := toNat_ofNat_of_lt (by omega : 0x80 + c.toNat / 4096 % 64 < 256)
    have hthird := toNat_ofNat_of_lt (by omega : 0x80 + c.toNat / 64 % 64 < 256)
    have hfourth := toNat_ofNat_of_lt (by omega : 0x80 + c.toNat % 64 < 256)
    refine ⟨_, _, _, rfl, ⟨by omega, by omega⟩, ⟨by omega, by omega⟩, ⟨by omega, by omega⟩,
      eq_ofNat_of_toNat_eq (by omega)⟩

end Completes

theorem lead_of_begin? {position : Nat} {b : UInt8} {begun : Begun} (hbegin : begin? position b = some begun) :
    (0xc2 ≤ b.toNat ∧ b.toNat ≤ 0xdf) ∨ (0xe0 ≤ b.toNat ∧ b.toNat ≤ 0xef) ∨ (0xf0 ≤ b.toNat ∧ b.toNat ≤ 0xf4) := by
  rw [begin?_eq] at hbegin
  split at hbegin
  · next htwo => exact .inl htwo
  · split at hbegin
    · next hthree => exact .inr (.inl hthree)
    · split at hbegin
      · next hfour => exact .inr (.inr hfour)
      · cases hbegin

theorem exists_begin? (position : Nat) {b : UInt8} (hb : 0xc2 ≤ b.toNat ∧ b.toNat ≤ 0xf4) :
    ∃ begun, begin? position b = some begun := by
  rw [begin?_eq]
  split
  · exact ⟨_, rfl⟩
  · split
    · exact ⟨_, rfl⟩
    · rw [if_pos (by omega)]
      exact ⟨_, rfl⟩

theorem origin_of_begin? {position : Nat} {b : UInt8} {begun : Begun} (hbegin : begin? position b = some begun) :
    begun.start = position ∧ begun.first = b ∧ begun.read = 1 := by
  rw [begin?_eq] at hbegin
  split at hbegin
  · obtain rfl := Option.some.inj hbegin
    exact ⟨rfl, rfl, rfl⟩
  · split at hbegin
    · obtain rfl := Option.some.inj hbegin
      exact ⟨rfl, rfl, rfl⟩
    · split at hbegin
      · obtain rfl := Option.some.inj hbegin
        exact ⟨rfl, rfl, rfl⟩
      · cases hbegin

theorem low_le_high_of_begin? {position : Nat} {b : UInt8} {begun : Begun}
    (hbegin : begin? position b = some begun) : begun.low.toNat ≤ begun.high.toNat := by
  rcases lead_of_begin? hbegin with hlead | hlead | hlead
  · rw [begin?_eq, if_pos hlead] at hbegin
    obtain rfl := Option.some.inj hbegin
    exact (by decide : (0x80 : UInt8).toNat ≤ (0xbf : UInt8).toNat)
  · obtain ⟨_, _, hlow, hhigh⟩ := fields_of_three hbegin hlead
    omega
  · obtain ⟨_, _, hlow, hhigh⟩ := fields_of_four hbegin hlead
    omega

/-- A character of more than one byte is what its first byte begins, with the bytes that complete
    it. -/
theorem utf8EncodeChar_eq_cons_iff {b : UInt8} {tail : Bytes} {c : Char} (position : Nat) (hb : 0x80 ≤ b.toNat) :
    String.utf8EncodeChar c = b :: tail ↔ ∃ begun, begin? position b = some begun ∧ begun.Completes tail c := by
  have hc := toNat_lt c
  rw [utf8EncodeChar_eq]
  constructor
  · intro hencode
    by_cases hone : c.toNat < 0x80
    · rw [if_pos hone] at hencode
      obtain ⟨rfl, _⟩ := List.cons.inj hencode
      rw [toNat_ofNat_of_lt (by omega)] at hb
      omega
    rw [if_neg hone] at hencode
    by_cases htwo : c.toNat < 0x800
    · rw [if_pos htwo] at hencode
      have hfirst : b.toNat = 0xc0 + c.toNat / 64 := by
        rw [← (List.cons.inj hencode).1, toNat_ofNat_of_lt (by omega)]
      obtain ⟨begun, hbegin⟩ := exists_begin? position (b := b) (by omega)
      exact ⟨begun, hbegin, (completes_iff_twoBytes hbegin (by omega)).mpr ⟨by omega, hencode⟩⟩
    rw [if_neg htwo] at hencode
    by_cases hthree : c.toNat < 0x10000
    · rw [if_pos hthree] at hencode
      have hfirst : b.toNat = 0xe0 + c.toNat / 4096 := by
        rw [← (List.cons.inj hencode).1, toNat_ofNat_of_lt (by omega)]
      obtain ⟨begun, hbegin⟩ := exists_begin? position (b := b) (by omega)
      exact ⟨begun, hbegin, (completes_iff_threeBytes hbegin (by omega)).mpr ⟨by omega, hencode⟩⟩
    · rw [if_neg hthree] at hencode
      have hfirst : b.toNat = 0xf0 + c.toNat / 262144 := by
        rw [← (List.cons.inj hencode).1, toNat_ofNat_of_lt (by omega)]
      obtain ⟨begun, hbegin⟩ := exists_begin? position (b := b) (by omega)
      exact ⟨begun, hbegin, (completes_iff_fourBytes hbegin (by omega)).mpr ⟨by omega, hencode⟩⟩
  · rintro ⟨begun, hbegin, hcompletes⟩
    rcases lead_of_begin? hbegin with hlead | hlead | hlead
    · obtain ⟨hrange, hbytes⟩ := (completes_iff_twoBytes hbegin hlead).mp hcompletes
      rw [if_neg (by omega), if_pos (by omega), hbytes]
    · obtain ⟨hrange, hbytes⟩ := (completes_iff_threeBytes hbegin hlead).mp hcompletes
      rw [if_neg (by omega), if_neg (by omega), if_pos (by omega), hbytes]
    · obtain ⟨hrange, hbytes⟩ := (completes_iff_fourBytes hbegin hlead).mp hcompletes
      rw [if_neg (by omega), if_neg (by omega), if_neg (by omega), hbytes]

end InstrDecl.Utf8
