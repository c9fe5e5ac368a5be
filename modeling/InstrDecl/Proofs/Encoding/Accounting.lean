import InstrDecl.Encoding.Extraction
import InstrDecl.Proofs.Template.Parse

namespace InstrDecl

/-- An end of the encoding is taken for the sentinel if every byte of it is. -/
theorem isSentinel_iff {sentinel : Int} {tail : Bytes} :
    isSentinel sentinel tail = true ↔ ∀ b ∈ tail, (b.toNat : Int) = sentinel := by
  simp [isSentinel]

namespace Template

variable {template : Template} {sentinel : Int} {answer : Assembly} {kind : OperandKind}

/-- What is reported when `tail` was cut off as an operand. The bytes of a relative operand are not
    known beforehand; all others should be the sentinel. -/
def cutNotices (template : Template) (sentinel : Int) (kind : OperandKind) (opcode tail : Bytes) : List Notice :=
  let extracted := Notice.extracted (template.assemblyText sentinel) (opcode ++ tail) opcode
  if kind.isRelative || isSentinel sentinel tail then [extracted]
  else [.operandNotLast template.source tail kind, extracted]

/-- An encoding counts for nothing if the assembler reports a failure. -/
theorem opcode_of_rejected (hstatus : answer.status ≠ 0) :
    template.opcode sentinel answer =
      (.error (.assembly ⟨template.assemblyText sentinel, .rejected answer.status answer.stderr⟩), []) := by
  have hrejected : answer.isOk = false := beq_eq_false_iff_ne.mpr hstatus
  simp [Template.opcode, hrejected]

/-- Without an operand to cut off, all of the encoding is the opcode. -/
theorem opcode_of_operand?_eq_none (hstatus : answer.status = 0) (hoperand : template.operand? = none) :
    template.opcode sentinel answer =
      (.ok answer.output, [.encoded (template.assemblyText sentinel) answer.output]) := by
  have hok : answer.isOk = true := beq_iff_eq.mpr hstatus
  simp [Template.opcode, hok, hoperand]

/-- An encoding that is shorter than the operand cannot end with it. -/
theorem opcode_of_truncated (hstatus : answer.status = 0) (hoperand : template.operand? = some kind)
    (hshort : answer.output.length < kind.width) :
    template.opcode sentinel answer =
      (.error (.assembly ⟨template.assemblyText sentinel, .truncated answer.output.length kind 0⟩), []) := by
  have hok : answer.isOk = true := beq_iff_eq.mpr hstatus
  simp [Template.opcode, hok, hoperand, hshort, hstatus]

/-- Unless it is relative, an operand is compared with the sentinel, and a sentinel that is no byte cannot
    be compared. -/
theorem opcode_of_no_byte (hstatus : answer.status = 0) (hoperand : template.operand? = some kind)
    (hlong : kind.width ≤ answer.output.length) (hrelative : kind.isRelative = false)
    (hbyte : ¬ (0 ≤ sentinel ∧ sentinel ≤ 255)) :
    template.opcode sentinel answer = (.error .sentinelRange, []) := by
  have hok : answer.isOk = true := beq_iff_eq.mpr hstatus
  have hroom : ¬ answer.output.length < kind.width := by omega
  have hrange : sentinel < 0 ∨ 255 < sentinel := by omega
  simp [Template.opcode, hok, hoperand, hroom, hrelative, hrange]

/-- If the encoding ends with as many bytes as the operand is wide, the opcode is all before them. -/
theorem opcode_of_append {opcode tail : Bytes} (hstatus : answer.status = 0) (hoperand : template.operand? = some kind)
    (houtput : answer.output = opcode ++ tail) (hwidth : tail.length = kind.width)
    (hbyte : kind.isRelative = true ∨ 0 ≤ sentinel ∧ sentinel ≤ 255) :
    template.opcode sentinel answer = (.ok opcode, template.cutNotices sentinel kind opcode tail) := by
  have hok : answer.isOk = true := beq_iff_eq.mpr hstatus
  have hroom : ¬ answer.output.length < kind.width := by
    rw [houtput, List.length_append]
    omega
  have hcut : answer.output.length - kind.width = opcode.length := by
    rw [houtput, List.length_append]
    omega
  have htake : answer.output.take opcode.length = opcode := by rw [houtput, List.take_left]
  have hdrop : answer.output.drop opcode.length = tail := by rw [houtput, List.drop_left]
  rw [cutNotices, ← houtput]
  cases hrelative : kind.isRelative with
  | true => simp [Template.opcode, hok, hoperand, hroom, hcut, htake, hrelative]
  | false =>
    have hrange : ¬ (sentinel < 0 ∨ 255 < sentinel) := by
      rcases hbyte with hyes | hbounds
      · rw [hrelative] at hyes
        cases hyes
      · omega
    cases hsentinel : isSentinel sentinel tail with
    | true => simp [Template.opcode, hok, hoperand, hroom, hcut, htake, hdrop, hrelative, hrange, hsentinel]
    | false => simp [Template.opcode, hok, hoperand, hroom, hcut, htake, hdrop, hrelative, hrange, hsentinel]

/-- The one warning is that the bytes of an operand are not the sentinel, and a relative operand
    gives no cause for it. -/
theorem mem_cutNotices_and_warning_iff {opcode tail : Bytes} {notice : Notice} :
    notice ∈ template.cutNotices sentinel kind opcode tail ∧ notice.level = .warning ↔
      notice = .operandNotLast template.source tail kind ∧ kind.isRelative = false ∧
        ¬ ∀ b ∈ tail, (b.toNat : Int) = sentinel := by
  rw [← isSentinel_iff, cutNotices]
  split
  · next hquiet =>
    constructor
    · rintro ⟨hmem, hlevel⟩
      rw [List.mem_singleton.mp hmem] at hlevel
      cases hlevel
    · rintro ⟨_, hrelative, hdiffers⟩
      rw [Bool.or_eq_true, hrelative] at hquiet
      exact absurd (hquiet.resolve_left Bool.false_ne_true) hdiffers
  · next hdiffers =>
    rw [Bool.or_eq_true, not_or, Bool.not_eq_true] at hdiffers
    constructor
    · rintro ⟨hmem, hlevel⟩
      rcases List.mem_cons.mp hmem with hfirst | hsecond
      · exact ⟨hfirst, hdiffers⟩
      · rw [List.mem_singleton.mp hsecond] at hlevel
        cases hlevel
    · rintro ⟨rfl, _⟩
      exact ⟨List.mem_cons_self, rfl⟩

/-- An encoding with room for the operand is cut, unless the sentinel is needed and is no byte. -/
theorem exists_opcode_append (hstatus : answer.status = 0) (hoperand : template.operand? = some kind)
    (hlong : kind.width ≤ answer.output.length) (hbyte : kind.isRelative = true ∨ 0 ≤ sentinel ∧ sentinel ≤ 255) :
    ∃ opcode tail : Bytes, answer.output = opcode ++ tail ∧ tail.length = kind.width ∧
      template.opcode sentinel answer = (.ok opcode, template.cutNotices sentinel kind opcode tail) := by
  have hsplit := List.take_append_drop (answer.output.length - kind.width) answer.output
  have hwidth : (answer.output.drop (answer.output.length - kind.width)).length = kind.width := by
    rw [List.length_drop]
    omega
  exact ⟨_, _, hsplit.symm, hwidth, opcode_of_append hstatus hoperand hsplit.symm hwidth hbyte⟩

/-- All that an answer without a failure can come to when the template has an operand. -/
theorem opcode_cases_of_operand (sentinel : Int) (hstatus : answer.status = 0)
    (hoperand : template.operand? = some kind) :
    (answer.output.length < kind.width ∧
      ∃ e, template.opcode sentinel answer = (.error (.assembly e), [])) ∨
    (kind.width ≤ answer.output.length ∧ kind.isRelative = false ∧ ¬ (0 ≤ sentinel ∧ sentinel ≤ 255) ∧
      template.opcode sentinel answer = (.error .sentinelRange, [])) ∨
    ∃ opcode tail : Bytes, answer.output = opcode ++ tail ∧ tail.length = kind.width ∧
      template.opcode sentinel answer = (.ok opcode, template.cutNotices sentinel kind opcode tail) := by
  by_cases hshort : answer.output.length < kind.width
  · exact .inl ⟨hshort, _, opcode_of_truncated hstatus hoperand hshort⟩
  · have hlong : kind.width ≤ answer.output.length := Nat.not_lt.mp hshort
    by_cases hbyte : kind.isRelative = true ∨ 0 ≤ sentinel ∧ sentinel ≤ 255
    · exact .inr (.inr (exists_opcode_append hstatus hoperand hlong hbyte))
    · rw [not_or, Bool.not_eq_true] at hbyte
      exact .inr (.inl ⟨hlong, hbyte.1, hbyte.2, opcode_of_no_byte hstatus hoperand hlong hbyte.1 hbyte.2⟩)

/-- An accepted line leads to an error of the assembler exactly if its encoding has no room for the operand.
    -/
theorem opcode_eq_assembly_error_iff (hstatus : answer.status = 0) (hoperand : template.operand? = some kind) :
    (∃ e, (template.opcode sentinel answer).1 = .error (.assembly e)) ↔ answer.output.length < kind.width := by
  constructor
  · rintro ⟨e, herror⟩
    rcases opcode_cases_of_operand sentinel hstatus hoperand with
      ⟨hshort, _⟩ | ⟨_, _, _, hcase⟩ | ⟨_, _, _, _, hcase⟩
    · exact hshort
    · rw [hcase] at herror
      cases herror
    · rw [hcase] at herror
      cases herror
  · intro hshort
    rw [opcode_of_truncated hstatus hoperand hshort]
    exact ⟨_, rfl⟩

theorem opcode_eq_sentinelRange_iff (hstatus : answer.status = 0) (hoperand : template.operand? = some kind)
    (hlong : kind.width ≤ answer.output.length) :
    (template.opcode sentinel answer).1 = .error .sentinelRange ↔
      kind.isRelative = false ∧ ¬ (0 ≤ sentinel ∧ sentinel ≤ 255) := by
  constructor
  · intro herror
    rcases opcode_cases_of_operand sentinel hstatus hoperand with
      ⟨_, _, hcase⟩ | ⟨_, hrelative, hbyte, _⟩ | ⟨_, _, _, _, hcase⟩
    · rw [hcase] at herror
      cases herror
    · exact ⟨hrelative, hbyte⟩
    · rw [hcase] at herror
      cases herror
  · rintro ⟨hrelative, hbyte⟩
    rw [opcode_of_no_byte hstatus hoperand hlong hrelative hbyte]

variable {σ : Type} {assembler : Assembler σ} {session : Session σ} {source : Text}

/-- The assembler is called once, and what is found in its answer is all that is added. -/
theorem extract_eq_of_answer
    (hanswer : (assembler (template.assemblyText sentinel) session.state).1.result = .ok answer) :
    template.extract assembler sentinel session =
      ((template.opcode sentinel answer).1,
        { state := (assembler (template.assemblyText sentinel) session.state).2
          calls := session.calls ++ [template.assemblyText sentinel]
          notices := session.notices ++ (assembler (template.assemblyText sentinel) session.state).1.notices ++
            (template.opcode sentinel answer).2 }) := by
  unfold Template.extract Session.call
  dsimp only
  rw [hanswer]
  rfl

/-- Whatever the assembler answers and whatever integer is the sentinel, the assembler is called once,
    with the line of the template. A failure of the assembler is reported with that line, its status
    and its messages. Without an operand the whole encoding is the opcode. With one, the encoding is
    too short for it, or the sentinel is needed and is no byte, or the encoding is the opcode and then
    as many bytes as the operand is wide; there is a warning exactly if these should be the sentinel
    and are not. -/
theorem extract_accounts_for_encoding (hparse : Template.parse source = .ok template) (assembler : Assembler σ)
    (sentinel : Int) (session : Session σ)
    (hanswer : (assembler (template.assemblyText sentinel) session.state).1.result = .ok answer) :
    let line := template.assemblyText sentinel
    let reply := assembler line session.state
    ∃ result added,
      template.extract assembler sentinel session =
        (result, { state := reply.2
                   calls := session.calls ++ [line]
                   notices := session.notices ++ reply.1.notices ++ added }) ∧
      (answer.status ≠ 0 → result = .error (.assembly ⟨line, .rejected answer.status answer.stderr⟩)) ∧
      (answer.status = 0 → template.operand? = none → result = .ok answer.output) ∧
      (answer.status = 0 → ∀ kind, template.operand? = some kind →
        ((∃ e, result = .error (.assembly e)) ↔ answer.output.length < kind.width) ∧
        (kind.width ≤ answer.output.length →
          (result = .error .sentinelRange ↔ kind.isRelative = false ∧ ¬ (0 ≤ sentinel ∧ sentinel ≤ 255)) ∧
          (kind.isRelative = true ∨ 0 ≤ sentinel ∧ sentinel ≤ 255 →
            ∃ opcode tail, result = .ok opcode ∧ opcode ++ tail = answer.output ∧ tail.length = kind.width ∧
              ∀ notice, notice ∈ added ∧ notice.level = .warning ↔
                notice = .operandNotLast source tail kind ∧ kind.isRelative = false ∧
                  ¬ ∀ b ∈ tail, (b.toNat : Int) = sentinel))) := by
  intro line reply
  obtain ⟨rfl, _⟩ := Template.parse_eq_ok_iff.mp hparse
  refine ⟨_, _, extract_eq_of_answer hanswer, ?_, ?_, ?_⟩
  · intro hstatus
    rw [opcode_of_rejected hstatus]
  · intro hstatus hoperand
    rw [opcode_of_operand?_eq_none hstatus hoperand]
  · intro hstatus kind hoperand
    refine ⟨opcode_eq_assembly_error_iff hstatus hoperand, ?_⟩
    intro hlong
    refine ⟨opcode_eq_sentinelRange_iff hstatus hoperand hlong, ?_⟩
    intro hbyte
    obtain ⟨opcode, tail, houtput, hwidth, hcut⟩ := exists_opcode_append hstatus hoperand hlong hbyte
    rw [hcut]
    exact ⟨opcode, tail, rfl, houtput.symm, hwidth, fun notice => mem_cutNotices_and_warning_iff⟩

/-- An assembler that takes every line for a move, with the operand given here. -/
def assemblesMove (operand : Bytes) : Assembler Unit := fun line _ =>
  let output := [0x49, 0xbc] ++ operand
  ({ result := .ok { instruction := line, status := 0, output, stderr := [] }, notices := [] }, ())

/-- The last byte is not the sentinel: the opcode is found all the same, and there is a warning. -/
theorem extract_accounts_for_encoding_move :
    let source : Text := "mov r12, $u64"
    let template : Template := ⟨source, [⟨.word "mov", 0⟩, ⟨.word "r12", 1⟩, ⟨.placeholder .u64, 0⟩]⟩
    let operand : Bytes := [0x11, 0x11, 0x11, 0x11, 0x11, 0x11, 0x11, 0x12]
    Template.parse source = .ok template ∧
      (∃ answer, (assemblesMove operand (template.assemblyText 0x11) ()).1.result = .ok answer) ∧
      ∃ added, template.extract (assemblesMove operand) 0x11 (.new ()) =
          (.ok [0x49, 0xbc], { state := (), calls := ["mov r12, 0x1111111111111111"], notices := added }) ∧
        .operandNotLast source operand .u64 ∈ added := by
  intro source template operand
  have hparse : Template.parse source = .ok template := rfl
  refine ⟨hparse, ⟨_, rfl⟩, ?_⟩
  obtain ⟨result, added, hextract, _, _, hopen⟩ :=
    extract_accounts_for_encoding hparse (assemblesMove operand) 0x11 (.new ()) rfl
  obtain ⟨_, hlong⟩ := hopen rfl .u64 rfl
  obtain ⟨opcode, tail, rfl, houtput, hwidth, hwarning⟩ := (hlong (by decide)).2 (.inr (by decide))
  obtain ⟨rfl, rfl⟩ := List.append_inj' houtput hwidth
  refine ⟨added, hextract, ?_⟩
  exact ((hwarning _).mpr ⟨rfl, rfl, by decide⟩).1

end Template

end InstrDecl
