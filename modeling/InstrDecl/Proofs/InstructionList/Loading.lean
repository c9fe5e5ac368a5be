import InstrDecl.InstructionList
import InstrDecl.Proofs.Text.Utf8.Malformed

namespace InstrDecl.InstructionList

variable {files : FileSystem} {path : Path} {content : Bytes}

/-- A file with this content can be read at the path. No file has a path that holds a null character. -/
def Readable (files : FileSystem) (path : Path) (content : Bytes) : Prop :=
  path.hasNul = false ∧ files.read path = .ok content

/-- Of a file that can be read, the decoder alone decides whether there is a text. -/
theorem Readable.readText_eq (hreadable : Readable files path content) :
    readText files path = (Utf8.decode content).mapError fun e => .unreadable path.text (.notUtf8 e) := by
  rw [readText, hreadable.1, if_neg Bool.false_ne_true, hreadable.2]
  dsimp only
  cases Utf8.decode content with
  | ok text => rfl
  | error e => rfl

/-- A decoded text is split into templates, and warnings come before the note that it was loaded. -/
theorem Readable.load_of_decode_eq_ok (hreadable : Readable files path content) {text : Text}
    (hdecode : Utf8.decode content = .ok text) :
    load files path =
      (.ok (split text), warnings (split text) ++ [.loaded (split text).length path.text]) := by
  rw [load, hreadable.readText_eq, hdecode]
  rfl

/-- A list that is not UTF-8 is reported by its error alone. -/
theorem Readable.load_of_decode_eq_error (hreadable : Readable files path content) {e : Utf8.DecodeError}
    (hdecode : Utf8.decode content = .error e) :
    load files path = (.error (.unreadable path.text (.notUtf8 e)), []) := by
  rw [load, hreadable.readText_eq, hdecode]
  rfl

/-- The reason names the bad part: its byte and place, or the places of its first and last byte. -/
theorem reason_of_firstFault {e : Utf8.DecodeError} (hfault : Utf8.FirstFault content e) :
    (ReadFault.notUtf8 e).reason =
      "'utf-8' codec can't decode " ++
        (if e.length = 1 then "byte 0x" ++ Text.hexByte e.first ++ " in position " ++ Text.ofNat e.position
        else "bytes in position " ++ Text.ofNat e.position ++ "-" ++ Text.ofNat (e.position + e.length - 1)) ++
        ": " ++ e.fault.reason := by
  obtain ⟨part, hbad, hlength, _⟩ := hfault.badPart
  have hpositive := List.length_pos_iff.mpr hbad.nonempty
  dsimp only [ReadFault.reason, Utf8.DecodeError.message]
  by_cases hone : e.length = 1
  · rw [if_pos hone, if_pos (by omega)]
  · rw [if_neg hone, if_neg (by omega)]

/-- A file that can be read is loaded exactly if it is UTF-8. If its bytes encode a text, the templates
    are the lines of that text, with a byte order mark as its first character if there is one. Otherwise
    there are no templates and no notices, but an error that names the path in normal form, the place up
    to which the bytes are UTF-8, and the bad part from there. In particular bytes that stand for no
    character are found wherever they follow a text, and so is a character that is cut off by the end. -/
theorem load_accepts_exactly_utf8 (files : FileSystem) (name : Text) (content : Bytes)
    (hreadable : Readable files (Path.ofText name) content) :
    (∀ text, content = Utf8.encode text →
      load files (Path.ofText name) = (.ok (split text),
        warnings (split text) ++ [.loaded (split text).length (Path.ofText name).text])) ∧
    ((∀ text, content ≠ Utf8.encode text) →
      ∃ e, load files (Path.ofText name) = (.error (.unreadable (Path.ofText name).text (.notUtf8 e)), []) ∧
        Utf8.FirstFault content e ∧
        (ReadFault.notUtf8 e).reason =
          "'utf-8' codec can't decode " ++
            (if e.length = 1 then "byte 0x" ++ Text.hexByte e.first ++ " in position " ++ Text.ofNat e.position
            else "bytes in position " ++ Text.ofNat e.position ++ "-" ++ Text.ofNat (e.position + e.length - 1)) ++
            ": " ++ e.fault.reason) ∧
    ∀ text bad rest, content = Utf8.encode text ++ (bad ++ rest) →
      Utf8.Malformed bad ∨ (Utf8.Begins bad ∧ bad ≠ [] ∧ rest = []) →
      ∃ e, load files (Path.ofText name) = (.error (.unreadable (Path.ofText name).text (.notUtf8 e)), []) ∧
        e.position = (Utf8.encode text).length := by
  refine ⟨fun text htext => ?_, fun hnone => ?_, fun text bad rest hcontent hbad => ?_⟩
  · exact hreadable.load_of_decode_eq_ok (Utf8.decode_eq_ok_iff.mpr htext)
  · cases hdecode : Utf8.decode content with
    | ok text => exact absurd (Utf8.decode_eq_ok_iff.mp hdecode) (hnone text)
    | error e =>
      have hfault := Utf8.firstFault_of_decode hdecode
      exact ⟨e, hreadable.load_of_decode_eq_error hdecode, hfault, reason_of_firstFault hfault⟩
  · have hstops : bad ++ rest ≠ [] ∧ ∀ c, ¬ String.utf8EncodeChar c <+: bad ++ rest := by
      rcases hbad with hmalformed | ⟨hbegins, hne, rfl⟩
      · refine ⟨?_, hmalformed.not_isPrefix rest⟩
        cases hmalformed <;> exact List.cons_ne_nil _ _
      · rw [List.append_nil]
        exact ⟨hne, hbegins.not_isPrefix⟩
    obtain ⟨e, hdecode, hposition⟩ := Utf8.exists_decode_eq_error text hstops.1 hstops.2
    rw [← hcontent] at hdecode
    exact ⟨e, hreadable.load_of_decode_eq_error hdecode, hposition⟩

/-- A file system with one file. -/
def oneFile (content : Bytes) : FileSystem :=
  { entries := [([("x.list" : Text)], .file content)], current := [] }

/-- A list with a byte order mark is loaded, and one is not that holds a surrogate after its first line. -/
theorem load_accepts_exactly_utf8_mark :
    (load (oneFile [0xef, 0xbb, 0xbf, 0x72, 0x65, 0x74, 0x0a]) (Path.ofText "./x.list")).1 =
        .ok [[Char.ofNat 0xfeff, 'r', 'e', 't']] ∧
      ∃ e, load (oneFile [0x72, 0x65, 0x74, 0x0a, 0xed, 0xa0, 0x80, 0x0a]) (Path.ofText "./x.list") =
        (.error (.unreadable "x.list" (.notUtf8 e)), []) ∧ e.position = 4 := by
  have hmark := load_accepts_exactly_utf8 (oneFile [0xef, 0xbb, 0xbf, 0x72, 0x65, 0x74, 0x0a]) "./x.list" _
    ⟨rfl, rfl⟩
  have hsurrogate := load_accepts_exactly_utf8 (oneFile [0x72, 0x65, 0x74, 0x0a, 0xed, 0xa0, 0x80, 0x0a]) "./x.list" _
    ⟨rfl, rfl⟩
  constructor
  · rw [hmark.1 [Char.ofNat 0xfeff, 'r', 'e', 't', '\n'] (by decide)]
    rfl
  · exact hsurrogate.2.2 "ret\n" (Utf8.threeBytes 0xd800) [0x0a] (by decide) (.inl (.surrogate (by decide)))

end InstrDecl.InstructionList
