import InstrDecl.Proofs.Text.Lowercase

namespace InstrDecl.Text

/-- The character is its own lowercase form. -/
def Settled (c : Char) : Prop :=
  lower [c] = [c]

instance : DecidablePred Settled :=
  fun c => inferInstanceAs (Decidable (lower [c] = [c]))

variable {c d : Char} {text : Text}

/-- Whether a character is left as it is does not depend on where it stands: neither form of a capital
    sigma is the capital. -/
theorem lowerAt_eq_self_iff (before after : Text) :
    lowerAt before c after = [c] ↔ c.toNat ≠ 0x03a3 ∧ lowerChar c = [c] := by
  rw [lowerAt]
  split
  · next hsigma =>
    constructor
    · intro hsame
      have hcode := congrArg Char.toNat (List.cons.inj hsame).1
      rw [hsigma] at hcode
      split at hcode <;> exact absurd hcode (by decide)
    · rintro ⟨hother, _⟩
      exact absurd hsigma hother
  · next hsigma => exact ⟨fun hlower => ⟨hsigma, hlower⟩, fun hboth => hboth.2⟩

theorem settled_iff : Settled c ↔ c.toNat ≠ 0x03a3 ∧ lowerChar c = [c] := by
  rw [Settled, lower, lowerAfter, lowerAfter, List.append_nil, lowerAt_eq_self_iff]

theorem lowerAt_ne_nil (before : Text) (c : Char) (after : Text) : lowerAt before c after ≠ [] := by
  unfold lowerAt lowerChar
  split
  · exact List.cons_ne_nil _ _
  · split
    · exact List.cons_ne_nil _ _
    · split
      · exact List.cons_ne_nil _ _
      · split <;> exact List.cons_ne_nil _ _

theorem length_le_length_lowerAfter (before text : Text) : text.length ≤ (lowerAfter before text).length := by
  induction text generalizing before with
  | nil => exact Nat.zero_le _
  | cons c rest ih =>
    have hone := List.length_pos_iff.mpr (lowerAt_ne_nil before c rest)
    have hrest := ih (c :: before)
    rw [lowerAfter, List.length_append, List.length_cons]
    omega

/-- A text is its own lowercase form exactly if each of its characters is. -/
theorem lowerAfter_eq_self_iff (before text : Text) :
    lowerAfter before text = text ↔ ∀ c ∈ text, Settled c := by
  induction text generalizing before with
  | nil => simp [lowerAfter]
  | cons c rest ih =>
    rw [List.forall_mem_cons, ← ih (c :: before), settled_iff, ← lowerAt_eq_self_iff before rest, lowerAfter]
    constructor
    · -- No form is empty, so one that is longer than its character would make the text longer.
      intro hsame
      have hone := List.length_pos_iff.mpr (lowerAt_ne_nil before c rest)
      have hrest := length_le_length_lowerAfter (c :: before) rest
      have hlength := congrArg List.length hsame
      rw [List.length_append, List.length_cons] at hlength
      have hshort : (lowerAt before c rest).length = [c].length := by
        rw [List.length_singleton]
        omega
      exact List.append_inj hsame hshort
    · rintro ⟨hfirst, hrest⟩
      rw [hfirst, hrest, List.singleton_append]

/-- A text is its own lowercase form exactly if all its characters are. -/
theorem lower_eq_self_iff : lower text = text ↔ ∀ c ∈ text, Settled c :=
  lowerAfter_eq_self_iff [] text

/-- Characters outside ASCII with another lowercase form: those of the case pairs, and the two that
    have rules of their own. -/
def capitals : List CaseRun :=
  ⟨0x0130, 0x0130, 1, 0⟩ :: ⟨0x03a3, 0x03a3, 1, 0⟩ :: caseRuns

/-- The first lowercase form of a run. -/
def CaseRun.target (run : CaseRun) : Nat :=
  (run.first + run.shift).toNat

/-- No lowercase form of the run is in the other run. In most cases one of them ends before the other
    begins. Where capitals and small letters take turns, one has the even and the other the odd
    numbers. -/
def CaseRun.misses (run other : CaseRun) : Bool :=
  Nat.blt other.last run.target || Nat.blt (run.target + (run.last - run.first)) other.first ||
    ((run.first == run.last || run.step == 2) && other.step == 2 && run.target % 2 != other.first % 2)

/-- No lowercase form of the run is a capital. -/
def CaseRun.avoidsCapitals (run : CaseRun) : Bool :=
  Nat.blt 0x5a run.target && capitals.all run.misses

/-- No letter has another capital for its small letter. -/
theorem avoidsCapitals_of_mem_caseRuns : ∀ run ∈ caseRuns, run.avoidsCapitals = true := by
  decide +kernel

theorem settled_ofNat {code : Nat} (hletter : 0x5a < code)
    (hcapitals : ∀ run ∈ capitals, run.contains code = false) : Settled (Char.ofNat code) := by
  rcases ofNat_cases code with hcode | hnull
  · generalize Char.ofNat code = c at hcode ⊢
    subst hcode
    have hspecial : ∀ special ∈ [0x0130, 0x03a3], c.toNat ≠ special := by
      intro special hmem hsame
      have hrun : ⟨special, special, 1, 0⟩ ∈ capitals := by
        rcases List.mem_cons.mp hmem with rfl | hmem
        · exact List.mem_cons_self
        · rw [List.mem_singleton.mp hmem]
          exact List.mem_cons_of_mem _ List.mem_cons_self
      simpa [CaseRun.contains, hsame] using hcapitals _ hrun
    have hfind : caseRuns.find? (·.contains c.toNat) = none := by
      refine List.find?_eq_none.mpr fun run hrun => ?_
      rw [hcapitals run (List.mem_cons_of_mem _ (List.mem_cons_of_mem _ hrun))]
      exact Bool.false_ne_true
    refine settled_iff.mpr ⟨hspecial 0x03a3 (by simp), ?_⟩
    rw [lowerChar, if_neg (hspecial 0x0130 (by simp)), hfind]
    split
    · next hascii =>
      have hlower : c.toLower = c := by
        refine ascii_forall (p := fun c => 0x5a < c.toNat → c.toLower = c) ?_ c hascii hletter
        decide
      rw [hlower]
    · rfl
  · rw [hnull]
    decide

theorem CaseRun.shift_avoids_capitals {run : CaseRun} {code : Nat} (hrun : run ∈ caseRuns)
    (hcode : run.contains code = true) :
    0x5a < (code + run.shift).toNat ∧ ∀ other ∈ capitals, other.contains (code + run.shift).toNat = false := by
  have havoids := avoidsCapitals_of_mem_caseRuns run hrun
  simp only [avoidsCapitals, contains, Bool.and_eq_true, decide_eq_true_eq, beq_iff_eq, Nat.blt_eq,
    List.all_eq_true] at havoids hcode
  obtain ⟨hletter, hmisses⟩ := havoids
  obtain ⟨⟨hfirst, hlast⟩, hstep⟩ := hcode
  have htarget : (code + run.shift).toNat = run.target + (code - run.first) := by
    unfold target at hletter ⊢
    omega
  refine ⟨by omega, fun other hother => ?_⟩
  have hmiss := hmisses other hother
  rw [Bool.eq_false_iff]
  intro hinside
  simp only [misses, contains, Bool.and_eq_true, Bool.or_eq_true, decide_eq_true_eq, beq_iff_eq,
    bne_iff_ne, Nat.blt_eq] at hmiss hinside
  rw [htarget] at hinside
  obtain ⟨⟨habove, hbelow⟩, hturn⟩ := hinside
  rcases hmiss with (hafter | hbefore) | ⟨⟨hform, heven⟩, hparity⟩
  · omega
  · omega
  · rw [heven] at hturn
    rcases hform with hsingle | hsecond
    · omega
    · rw [hsecond] at hstep
      omega

/-- The lowercase form of a letter is in lowercase; only the sigma has two of them. -/
theorem settled_of_mem_lowerChar (hmem : d ∈ lowerChar c) (hsigma : c.toNat ≠ 0x03a3) : Settled d := by
  unfold lowerChar at hmem
  split at hmem
  · next hascii =>
    obtain rfl := List.mem_singleton.mp hmem
    refine ascii_forall (p := fun c => Settled c.toLower) ?_ c hascii
    decide
  · split at hmem
    · rcases List.mem_cons.mp hmem with rfl | hmark
      · decide
      · obtain rfl := List.mem_singleton.mp hmark
        decide
    · split at hmem
      · next run hfind =>
        obtain rfl := List.mem_singleton.mp hmem
        have hcontains : run.contains c.toNat = true := by simpa using List.find?_some hfind
        obtain ⟨hletter, hcapitals⟩ := CaseRun.shift_avoids_capitals (List.mem_of_find?_eq_some hfind) hcontains
        exact settled_ofNat hletter hcapitals
      · next hascii hdotted _ hfind =>
        obtain rfl := List.mem_singleton.mp hmem
        refine settled_iff.mpr ⟨hsigma, ?_⟩
        rw [lowerChar, if_neg hascii, if_neg hdotted, hfind]

/-- All characters of a lowercase form are their own lowercase form. -/
theorem settled_of_mem_lower (hmem : d ∈ lower text) : Settled d := by
  have hafter : ∀ text before, d ∈ lowerAfter before text → Settled d := by
    intro text
    induction text with
    | nil =>
      intro before hmem
      exact absurd hmem List.not_mem_nil
    | cons c rest ih =>
      intro before hmem
      rcases List.mem_append.mp hmem with hfirst | hrest
      · unfold lowerAt at hfirst
        split at hfirst
        · obtain rfl := List.mem_singleton.mp hfirst
          split <;> decide
        · next hsigma => exact settled_of_mem_lowerChar hfirst hsigma
      · exact ih (c :: before) hrest
  exact hafter text [] hmem

end InstrDecl.Text
