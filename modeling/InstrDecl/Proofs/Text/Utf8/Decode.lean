import InstrDecl.Proofs.Text.Utf8.Character

namespace InstrDecl.Utf8

/-- The bytes are those that some character starts with, and not all of them. -/
def Begins (run : Bytes) : Prop :=
  ∃ c rest, rest ≠ [] ∧ String.utf8EncodeChar c = run ++ rest

/-- The bad part at the start of bytes that no character stands at the start of: the longest run that
    begins a character, and at least the first byte. Its cause is told from whether it begins a
    character at all, and whether anything follows it. -/
structure BadPart (bytes part : Bytes) (fault : Fault) : Prop where
  isStart : part <+: bytes
  begins : Begins part ∨ part.length = 1
  nonempty : part ≠ []
  longest : ∀ run, run <+: bytes → Begins run → run.length ≤ part.length
  invalidStart_iff : fault = .invalidStart ↔ ¬ Begins part
  unexpectedEnd_iff : fault = .unexpectedEnd ↔ Begins part ∧ part = bytes

/-- The first fault of bytes that are not UTF-8: it stands at the end of the longest part of them
    that is. -/
structure FirstFault (bytes : Bytes) (e : DecodeError) : Prop where
  isUtf8 : ∃ text, encode text <+: bytes ∧ (encode text).length = e.position
  longest : ∀ text, encode text <+: bytes → (encode text).length ≤ e.position
  badPart : ∃ part, BadPart (bytes.drop e.position) part e.fault ∧ part.length = e.length ∧ part.head? = some e.first

variable {begun : Begun} {b : UInt8} {bytes rest : Bytes} {c : Char}

theorem within_bounds_iff : (begun.low ≤ b && b ≤ begun.high) = true ↔ begun.Admits b := by
  rw [Bool.and_eq_true, decide_eq_true_eq, decide_eq_true_eq, UInt8.le_iff_toNat_le, UInt8.le_iff_toNat_le]
  exact Iff.rfl

theorem decodeFrom_last (position : Nat) (hadmits : begun.Admits b) (hneeded : begun.needed ≤ 1) :
    decodeFrom position (some begun) (b :: rest) =
      (decodeFrom (position + 1) none rest).map (Char.ofNat (begun.bitsWith b) :: ·) := by
  rw [decodeFrom, if_pos (within_bounds_iff.mpr hadmits)]
  dsimp only
  rw [if_pos hneeded]
  rfl

theorem decodeFrom_next (position : Nat) (hadmits : begun.Admits b) (hneeded : ¬ begun.needed ≤ 1) :
    decodeFrom position (some begun) (b :: rest) = decodeFrom (position + 1) (some (begun.next b)) rest := by
  rw [decodeFrom, if_pos (within_bounds_iff.mpr hadmits)]
  dsimp only
  rw [if_neg hneeded]
  rfl

/-- A byte that is not admitted ends the character before it, and that is the error. -/
theorem decodeFrom_refused (position : Nat) (hadmits : ¬ begun.Admits b) :
    decodeFrom position (some begun) (b :: rest) = .error (begun.error .invalidContinuation) := by
  rw [decodeFrom, if_neg (mt within_bounds_iff.mp hadmits)]

/-- A character that has been begun and is completed. -/
theorem decodeFrom_completes (position : Nat) (rest : Bytes) (hcompletes : begun.Completes bytes c) :
    decodeFrom position (some begun) (bytes ++ rest) =
      (decodeFrom (position + bytes.length) none rest).map (c :: ·) := by
  induction bytes generalizing begun position with
  | nil => exact absurd hcompletes id
  | cons b more ih =>
    by_cases hneeded : begun.needed ≤ 1
    · obtain ⟨b', hsame, hadmits, hc⟩ := (Begun.completes_last_iff hneeded).mp hcompletes
      obtain ⟨rfl, rfl⟩ := List.cons.inj hsame
      rw [hc]
      exact decodeFrom_last position hadmits hneeded
    · obtain ⟨b', more', hsame, hadmits, hrest⟩ := (Begun.completes_more_iff (by omega)).mp hcompletes
      obtain ⟨rfl, rfl⟩ := List.cons.inj hsame
      rw [List.cons_append, decodeFrom_next position hadmits hneeded, ih _ hrest, List.length_cons,
        Nat.add_right_comm, Nat.add_assoc]

theorem decodeFrom_ascii (position : Nat) (hb : b.toNat < 0x80) :
    decodeFrom position none (b :: rest) = (decodeFrom (position + 1) none rest).map (Char.ofNat b.toNat :: ·) := by
  rw [decodeFrom, if_pos (UInt8.lt_iff_toNat_lt.mpr hb)]

theorem not_lt_of_le_toNat (hb : 0x80 ≤ b.toNat) : ¬ b < 0x80 :=
  fun hlt => Nat.not_lt.mpr hb (UInt8.lt_iff_toNat_lt.mp hlt)

theorem decodeFrom_begun {position : Nat} (rest : Bytes) (hb : 0x80 ≤ b.toNat)
    (hbegin : begin? position b = some begun) :
    decodeFrom position none (b :: rest) = decodeFrom (position + 1) (some begun) rest := by
  rw [decodeFrom, if_neg (not_lt_of_le_toNat hb), hbegin]

theorem decodeFrom_invalidStart {position : Nat} (rest : Bytes) (hb : 0x80 ≤ b.toNat)
    (hbegin : begin? position b = none) :
    decodeFrom position none (b :: rest) = .error ⟨position, 1, b, .invalidStart⟩ := by
  rw [decodeFrom, if_neg (not_lt_of_le_toNat hb), hbegin]

theorem utf8EncodeChar_eq_ascii_iff {tail : Bytes} (hb : b.toNat < 0x80) :
    String.utf8EncodeChar c = b :: tail ↔ tail = [] ∧ c = Char.ofNat b.toNat := by
  have hc := toNat_lt c
  rw [utf8EncodeChar_eq]
  constructor
  · intro hencode
    have hfirst : b.toNat = c.toNat ∧ c.toNat < 0x80 := by
      split at hencode
      · next hone =>
        rw [← (List.cons.inj hencode).1, toNat_ofNat_of_lt (by omega)]
        exact ⟨rfl, hone⟩
      · exfalso
        split at hencode
        · rw [← (List.cons.inj hencode).1, toNat_ofNat_of_lt (by omega)] at hb
          omega
        · split at hencode
          · rw [← (List.cons.inj hencode).1, toNat_ofNat_of_lt (by omega)] at hb
            omega
          · rw [← (List.cons.inj hencode).1, toNat_ofNat_of_lt (by omega)] at hb
            omega
    rw [if_pos hfirst.2] at hencode
    exact ⟨(List.cons.inj hencode).2.symm, eq_ofNat_of_toNat_eq hfirst.1⟩
  · rintro ⟨rfl, hvalue⟩
    have hvalue := toNat_eq_of_eq_ofNat (by omega) hvalue
    rw [if_pos (by omega), hvalue, UInt8.ofNat_toNat]

theorem utf8EncodeChar_ne_nil (c : Char) : String.utf8EncodeChar c ≠ [] := by
  rw [utf8EncodeChar_eq]
  split
  · exact List.cons_ne_nil _ _
  · split
    · exact List.cons_ne_nil _ _
    · split <;> exact List.cons_ne_nil _ _

/-- The decoder reads a character off its bytes. -/
theorem decodeFrom_utf8EncodeChar (position : Nat) (c : Char) (rest : Bytes) :
    decodeFrom position none (String.utf8EncodeChar c ++ rest) =
      (decodeFrom (position + (String.utf8EncodeChar c).length) none rest).map (c :: ·) := by
  obtain ⟨b, tail, hencode⟩ := List.exists_cons_of_ne_nil (utf8EncodeChar_ne_nil c)
  rw [hencode, List.cons_append, List.length_cons]
  by_cases hb : b.toNat < 0x80
  · obtain ⟨rfl, hc⟩ := (utf8EncodeChar_eq_ascii_iff hb).mp hencode
    rw [decodeFrom_ascii position hb, ← hc]
    rfl
  · obtain ⟨begun, hbegin, hcompletes⟩ := (utf8EncodeChar_eq_cons_iff position (Nat.not_lt.mp hb)).mp hencode
    rw [decodeFrom_begun _ (Nat.not_lt.mp hb) hbegin, decodeFrom_completes _ rest hcompletes, Nat.add_right_comm,
      Nat.add_assoc]

theorem encode_cons (c : Char) (text : Text) : encode (c :: text) = String.utf8EncodeChar c ++ encode text :=
  List.flatMap_cons

/-- The decoder reads a text off its encoding, whatever follows. -/
theorem decodeFrom_encode (position : Nat) (text : Text) (rest : Bytes) :
    decodeFrom position none (encode text ++ rest) =
      (decodeFrom (position + (encode text).length) none rest).map (text ++ ·) := by
  induction text generalizing position with
  | nil => cases hrest : decodeFrom position none rest <;> simp [encode, hrest, Except.map]
  | cons c text ih =>
    rw [encode_cons, List.append_assoc, decodeFrom_utf8EncodeChar, ih, List.length_append, Nat.add_assoc]
    cases decodeFrom (position + ((String.utf8EncodeChar c).length + (encode text).length)) none rest <;> rfl

/-- The bytes cease to complete a character that has been begun after this run of them. The character
    can be completed up to there, and then the bytes end or the next one does not fit. -/
structure Begun.Stuck (begun : Begun) (bytes run : Bytes) (fault : Fault) : Prop where
  isStart : run <+: bytes
  goesOn : ∃ rest c, rest ≠ [] ∧ begun.Completes (run ++ rest) c
  ends : run = bytes ∧ fault = .unexpectedEnd ∨
    fault = .invalidContinuation ∧ ∃ b, run ++ [b] <+: bytes ∧ ∀ rest c, ¬ begun.Completes (run ++ b :: rest) c

/-- A character that was begun and not completed is cut off at the end. -/
theorem Begun.stuck_nil (hbounds : begun.low.toNat ≤ begun.high.toNat) : begun.Stuck [] [] .unexpectedEnd := by
  obtain ⟨rest, c, hcompletes⟩ := Begun.exists_completes hbounds
  exact ⟨List.prefix_rfl, ⟨rest, c, hcompletes.ne_nil, hcompletes⟩, .inl ⟨rfl, rfl⟩⟩

theorem Begun.stuck_of_not_admits {more : Bytes} (hbounds : begun.low.toNat ≤ begun.high.toNat)
    (hrefused : ¬ begun.Admits b) : begun.Stuck (b :: more) [] .invalidContinuation := by
  obtain ⟨rest, c, hcompletes⟩ := Begun.exists_completes hbounds
  refine ⟨List.nil_prefix, ⟨rest, c, hcompletes.ne_nil, hcompletes⟩, .inr ⟨rfl, b, List.prefix_append [b] more, ?_⟩⟩
  intro rest c hcompletes
  exact hrefused hcompletes.1

/-- A byte that fits is part of the run. -/
theorem Begun.Stuck.cons {more run : Bytes} {fault : Fault} (hadmits : begun.Admits b)
    (hneeded : ¬ begun.needed ≤ 1) (hstuck : (begun.next b).Stuck more run fault) :
    begun.Stuck (b :: more) (b :: run) fault := by
  have hmore : ∀ {rest c}, begun.Completes (b :: rest) c ↔ (begun.next b).Completes rest c := by
    intro rest c
    rw [Begun.Completes, if_neg hneeded]
    exact and_iff_right hadmits
  obtain ⟨hrun, ⟨rest, c, hrest, hcompletes⟩, hends⟩ := hstuck
  refine ⟨List.cons_prefix_cons.mpr ⟨rfl, hrun⟩, ⟨rest, c, hrest, hmore.mpr hcompletes⟩, ?_⟩
  rcases hends with ⟨rfl, hfault⟩ | ⟨hfault, next, hnext, hnone⟩
  · exact .inl ⟨rfl, hfault⟩
  · refine .inr ⟨hfault, next, List.cons_prefix_cons.mpr ⟨rfl, hnext⟩, ?_⟩
    intro rest c hcompletes
    exact hnone rest c (hmore.mp hcompletes)

/-- What comes of the bytes after a character has been begun: they complete it, or the decoder stops
    inside it. -/
theorem begun_cases (position : Nat) (hbounds : begun.low.toNat ≤ begun.high.toNat) (bytes : Bytes) :
    (∃ first c, first <+: bytes ∧ begun.Completes first c) ∨
    ∃ run fault, begun.Stuck bytes run fault ∧
      decodeFrom position (some begun) bytes = .error ⟨begun.start, begun.read + run.length, begun.first, fault⟩ := by
  induction bytes generalizing begun position with
  | nil => exact .inr ⟨[], .unexpectedEnd, Begun.stuck_nil hbounds, rfl⟩
  | cons b more ih =>
    by_cases hadmits : begun.Admits b
    · by_cases hneeded : begun.needed ≤ 1
      · exact .inl ⟨[b], _, List.prefix_append [b] more,
          (Begun.completes_last_iff hneeded).mpr ⟨b, rfl, hadmits, rfl⟩⟩
      · rcases ih (position + 1) (begun.low_next_le_high b) with
          ⟨first, c, hfirst, hcompletes⟩ | ⟨run, fault, hstuck, herror⟩
        · exact .inl ⟨b :: first, c, List.cons_prefix_cons.mpr ⟨rfl, hfirst⟩,
            (Begun.completes_more_iff (Nat.not_le.mp hneeded)).mpr ⟨b, first, rfl, hadmits, hcompletes⟩⟩
        · refine .inr ⟨b :: run, fault, hstuck.cons hadmits hneeded, ?_⟩
          rw [decodeFrom_next position hadmits hneeded, herror, List.length_cons, Nat.add_comm run.length,
            ← Nat.add_assoc]
          rfl
    · exact .inr ⟨[], .invalidContinuation, Begun.stuck_of_not_admits hbounds hadmits,
        decodeFrom_refused position hadmits⟩

/-- A byte that starts no character is bad by itself. -/
theorem badPart_invalidStart {more : Bytes} (hnone : ∀ c tail, String.utf8EncodeChar c ≠ b :: tail) :
    BadPart (b :: more) [b] .invalidStart := by
  have hlongest : ∀ run, run <+: b :: more → Begins run → run = [] := by
    rintro run hrun ⟨c, rest, _, hencode⟩
    cases run with
    | nil => rfl
    | cons b' run =>
      obtain ⟨rfl, _⟩ := List.cons_prefix_cons.mp hrun
      exact absurd hencode (hnone c _)
  have hbegins : ¬ Begins [b] := by
    intro hbegins
    exact List.cons_ne_nil _ _ (hlongest [b] (List.prefix_append [b] more) hbegins)
  constructor
  · exact List.prefix_append [b] more
  · exact .inr rfl
  · exact List.cons_ne_nil b []
  · intro run hrun hbegins
    rw [hlongest run hrun hbegins]
    exact Nat.zero_le 1
  · exact iff_of_true rfl hbegins
  · exact iff_of_false (by decide) fun h => hbegins h.1

/-- A run that begins a character is bad if the bytes end with it. -/
theorem badPart_unexpectedEnd (hne : bytes ≠ []) (hbegins : Begins bytes) : BadPart bytes bytes .unexpectedEnd where
  isStart := List.prefix_rfl
  begins := .inl hbegins
  nonempty := hne
  longest := fun _ hrun _ => hrun.length_le
  invalidStart_iff := iff_of_false (by decide) (not_not_intro hbegins)
  unexpectedEnd_iff := iff_of_true rfl ⟨hbegins, rfl⟩

/-- A run that begins a character is bad if no character goes on with the next byte. -/
theorem badPart_invalidContinuation {part : Bytes} (hne : part ≠ []) (hbegins : Begins part)
    (hnext : part ++ [b] <+: bytes) (hnone : ∀ c rest, String.utf8EncodeChar c ≠ part ++ b :: rest) :
    BadPart bytes part .invalidContinuation := by
  have hstart : part <+: bytes := (List.prefix_append part [b]).trans hnext
  constructor
  · exact hstart
  · exact .inl hbegins
  · exact hne
  · rintro run hrun ⟨c, rest, _, hencode⟩
    refine Nat.le_of_not_lt fun hlonger => ?_
    -- A longer run would hold the next byte.
    obtain ⟨more, rfl⟩ : part ++ [b] <+: run := by
      refine List.prefix_of_prefix_length_le hnext hrun ?_
      rw [List.length_append, List.length_singleton]
      omega
    rw [List.append_assoc, List.append_assoc, List.singleton_append] at hencode
    exact hnone c _ hencode
  · exact iff_of_false (by decide) (not_not_intro hbegins)
  · refine iff_of_false (by decide) ?_
    rintro ⟨_, rfl⟩
    have hlength := hnext.length_le
    rw [List.length_append, List.length_singleton] at hlength
    omega

/-- What comes of bytes between two characters: a character is read off their start, or the decoder
    stops there. -/
theorem decodeFrom_cases (position : Nat) (hne : bytes ≠ []) :
    (∃ c rest, bytes = String.utf8EncodeChar c ++ rest) ∨
    ∃ part fault first, decodeFrom position none bytes = .error ⟨position, part.length, first, fault⟩ ∧
      part.head? = some first ∧ BadPart bytes part fault := by
  obtain ⟨b, more, rfl⟩ := List.exists_cons_of_ne_nil hne
  by_cases hb : b.toNat < 0x80
  · exact .inl ⟨Char.ofNat b.toNat, more, by rw [(utf8EncodeChar_eq_ascii_iff hb).mpr ⟨rfl, rfl⟩]; rfl⟩
  rw [Nat.not_lt] at hb
  have hchar : ∀ {c tail}, String.utf8EncodeChar c = b :: tail ↔
      ∃ begun, begin? position b = some begun ∧ begun.Completes tail c :=
    utf8EncodeChar_eq_cons_iff position hb
  cases hbegin : begin? position b with
  | none =>
    have hnone : ∀ c tail, String.utf8EncodeChar c ≠ b :: tail := by
      intro c tail hencode
      obtain ⟨begun, hsome, _⟩ := hchar.mp hencode
      rw [hbegin] at hsome
      cases hsome
    exact .inr ⟨[b], .invalidStart, b, decodeFrom_invalidStart more hb hbegin, rfl, badPart_invalidStart hnone⟩
  | some begun =>
    have hcompletes : ∀ {c tail}, String.utf8EncodeChar c = b :: tail ↔ begun.Completes tail c := by
      intro c tail
      rw [hchar, hbegin]
      exact ⟨fun ⟨_, hsame, h⟩ => Option.some.inj hsame ▸ h, fun h => ⟨begun, rfl, h⟩⟩
    rcases begun_cases (position + 1) (low_le_high_of_begin? hbegin) more with
      ⟨first, c, ⟨rest, rfl⟩, hfirst⟩ | ⟨run, fault, ⟨hrun, ⟨rest, c, hrest, hopen⟩, hends⟩, herror⟩
    · exact .inl ⟨c, rest, by rw [hcompletes.mpr hfirst]; rfl⟩
    · refine .inr ⟨b :: run, fault, b, ?_, rfl, ?_⟩
      · obtain ⟨hstart, hfirst, hread⟩ := origin_of_begin? hbegin
        rw [decodeFrom_begun more hb hbegin, herror, hstart, hfirst, hread, List.length_cons, Nat.add_comm 1]
      · have hbegins : Begins (b :: run) := ⟨c, rest, hrest, hcompletes.mpr hopen⟩
        rcases hends with ⟨rfl, rfl⟩ | ⟨rfl, next, hnext, hnone⟩
        · exact badPart_unexpectedEnd hne hbegins
        · refine badPart_invalidContinuation (List.cons_ne_nil b run) hbegins
            (List.cons_prefix_cons.mpr ⟨rfl, hnext⟩) fun c rest hencode => ?_
          exact hnone rest c (hcompletes.mp hencode)

/-- The decoder reads characters up to the end, or up to where it stops. -/
theorem decodeFrom_ends (position : Nat) (bytes : Bytes) :
    (∃ text, decodeFrom position none bytes = .ok text ∧ bytes = encode text) ∨
    ∃ text bad part fault first, bytes = encode text ++ bad ∧
      decodeFrom position none bytes = .error ⟨position + (encode text).length, part.length, first, fault⟩ ∧
      part.head? = some first ∧ BadPart bad part fault := by
  induction hlength : bytes.length using Nat.strongRecOn generalizing position bytes with
  | ind length ih =>
    by_cases hne : bytes = []
    · rw [hne]
      exact .inl ⟨[], rfl, rfl⟩
    rcases decodeFrom_cases position hne with ⟨c, rest, rfl⟩ | ⟨part, fault, first, herror, hfirst, hbad⟩
    · have hshorter : rest.length < length := by
        have hpositive := List.length_pos_iff.mpr (utf8EncodeChar_ne_nil c)
        rw [List.length_append] at hlength
        omega
      rw [decodeFrom_utf8EncodeChar]
      rcases ih _ hshorter (position + (String.utf8EncodeChar c).length) rest rfl with
        ⟨text, hok, rfl⟩ | ⟨text, bad, part, fault, first, rfl, herror, hfirst, hbad⟩
      · exact .inl ⟨c :: text, by rw [hok]; rfl, (encode_cons c text).symm⟩
      · refine .inr ⟨c :: text, bad, part, fault, first, ?_, ?_, hfirst, hbad⟩
        · rw [encode_cons, List.append_assoc]
        · rw [herror, encode_cons, List.length_append, Nat.add_assoc]
          rfl
    · exact .inr ⟨[], bytes, part, fault, first, rfl, herror, hfirst, hbad⟩

/-- What can be decoded is what encoding produces. -/
theorem decode_eq_ok_iff {text : Text} : decode bytes = .ok text ↔ bytes = encode text := by
  constructor
  · intro hok
    rcases decodeFrom_ends 0 bytes with ⟨text', hok', rfl⟩ | ⟨_, _, _, _, _, _, herror, _⟩
    · rw [decode, hok'] at hok
      rw [Except.ok.inj hok]
    · rw [decode, herror] at hok
      cases hok
  · rintro rfl
    have hdecode := decodeFrom_encode 0 text []
    rw [List.append_nil] at hdecode
    rw [decode, hdecode]
    exact congrArg Except.ok (List.append_nil text)

/-- An error is never found before the place where decoding began. -/
theorem le_position_of_error {position : Nat} {e : DecodeError} (herror : decodeFrom position none bytes = .error e) :
    position ≤ e.position := by
  rcases decodeFrom_ends position bytes with ⟨_, hok, _⟩ | ⟨_, _, _, _, _, _, herror', _⟩
  · rw [hok] at herror
    cases herror
  · rw [herror'] at herror
    rw [← Except.error.inj herror]
    exact Nat.le_add_right _ _

/-- Nothing beyond the place of the fault could be decoded. -/
theorem length_encode_le_position {text : Text} {e : DecodeError} (herror : decode bytes = .error e)
    (htext : encode text <+: bytes) : (encode text).length ≤ e.position := by
  obtain ⟨rest, rfl⟩ := htext
  rw [decode, decodeFrom_encode, Nat.zero_add] at herror
  cases hrest : decodeFrom (encode text).length none rest with
  | ok more =>
    rw [hrest] at herror
    cases herror
  | error e' =>
    rw [hrest] at herror
    rw [← Except.error.inj herror]
    exact le_position_of_error hrest

/-- What cannot be decoded is reported with its first fault. -/
theorem firstFault_of_decode {e : DecodeError} (herror : decode bytes = .error e) : FirstFault bytes e := by
  have hlongest : ∀ text, encode text <+: bytes → (encode text).length ≤ e.position :=
    fun _ htext => length_encode_le_position herror htext
  rcases decodeFrom_ends 0 bytes with ⟨_, hok, _⟩ | ⟨text, bad, part, fault, first, rfl, herror', hfirst, hbad⟩
  · rw [decode, hok] at herror
    cases herror
  · rw [decode, herror', Nat.zero_add] at herror
    obtain rfl := Except.error.inj herror
    refine ⟨⟨text, List.prefix_append _ bad, rfl⟩, hlongest, part, ?_, rfl, hfirst⟩
    rw [List.drop_left]
    exact hbad

end InstrDecl.Utf8
