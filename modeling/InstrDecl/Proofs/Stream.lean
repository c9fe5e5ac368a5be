import InstrDecl.Proofs.Text.ControlSequence

namespace InstrDecl

/-- It makes no difference to what is shown whether texts that end in a newline are printed one after the
    other or together. -/
theorem Outlet.rendered_flatten_of_ended (outlet : Outlet) {texts : List Text}
    (hended : ∀ text ∈ texts, ∃ line, text = line ++ ['\n']) :
    outlet.rendered texts.flatten = texts.flatMap outlet.rendered := by
  cases outlet with
  | closed => exact (List.flatMap_eq_nil_iff.mpr fun _ _ => rfl).symm
  | pipe => exact Text.plain_flatten_of_ended hended
  | terminal => exact List.flatMap_id.symm

namespace Stream

variable {stream : Stream} {before shown text : Text} {texts : List Text}

/-- Each of the texts is taken when it is its turn, after `before` and the texts that precede it. -/
def Takes (stream : Stream) (before : Text) (texts : List Text) : Prop :=
  ∀ earlier text later, texts = earlier ++ text :: later →
    stream.failure? (before ++ earlier.flatMap stream.outlet.rendered) text = none

/-- One of the texts is not taken as a whole: shown are the texts that precede it, and what was taken of
    it. -/
def StopsWithin (stream : Stream) (before : Text) (texts : List Text) (shown : Text) : Prop :=
  ∃ earlier text later failure, texts = earlier ++ text :: later ∧ stream.Takes before earlier ∧
    stream.failure? (before ++ earlier.flatMap stream.outlet.rendered) text = some failure ∧
    shown = before ++ earlier.flatMap stream.outlet.rendered ++
      (stream.outlet.rendered text).take failure.taken

theorem takes_nil (stream : Stream) (before : Text) : stream.Takes before [] := by
  intro earlier text later hsplit
  simp at hsplit

/-- A reader that takes everything takes each text. -/
theorem takes_pipe (before : Text) (texts : List Text) : Stream.pipe.Takes before texts :=
  fun _ _ _ _ => rfl

/-- Texts are taken if the first one is, and the others after it. -/
theorem takes_cons_iff : stream.Takes before (text :: texts) ↔
    stream.failure? before text = none ∧ stream.Takes (before ++ stream.outlet.rendered text) texts := by
  constructor
  · intro htakes
    refine ⟨by simpa using htakes [] text texts rfl, fun earlier other later hsplit => ?_⟩
    have hother := htakes (text :: earlier) other later (congrArg _ hsplit)
    rwa [List.flatMap_cons, ← List.append_assoc] at hother
  · rintro ⟨hfirst, hrest⟩ earlier other later hsplit
    cases earlier with
    | nil =>
      obtain ⟨rfl, rfl⟩ := List.cons.inj hsplit
      simpa using hfirst
    | cons first earlier =>
      obtain ⟨rfl, hrow⟩ := List.cons.inj hsplit
      rw [List.flatMap_cons, ← List.append_assoc]
      exact hrest earlier other later hrow

theorem StopsWithin.not_takes (hstops : stream.StopsWithin before texts shown) : ¬ stream.Takes before texts := by
  obtain ⟨earlier, text, later, failure, hsplit, _, hfailure, _⟩ := hstops
  intro htakes
  rw [htakes earlier text later hsplit] at hfailure
  cases hfailure

/-- Where printing stops does not depend on how much was printed before. -/
theorem StopsWithin.cons (hfirst : stream.failure? before text = none)
    (hstops : stream.StopsWithin (before ++ stream.outlet.rendered text) texts shown) :
    stream.StopsWithin before (text :: texts) shown := by
  obtain ⟨earlier, other, later, failure, rfl, htakes, hfailure, rfl⟩ := hstops
  refine ⟨text :: earlier, other, later, failure, rfl, takes_cons_iff.mpr ⟨hfirst, htakes⟩, ?_, ?_⟩
  · rwa [List.flatMap_cons, ← List.append_assoc]
  · rw [List.flatMap_cons, List.append_assoc before]

/-- Texts are all shown, or they are shown up to somewhere in the first that is not taken. -/
theorem printAll_cases (stream : Stream) (before : Text) (texts : List Text) :
    (stream.Takes before texts ∧
      stream.printAll before texts = (before ++ texts.flatMap stream.outlet.rendered, none)) ∨
    ∃ shown fault, stream.StopsWithin before texts shown ∧ stream.printAll before texts = (shown, some fault) := by
  induction texts generalizing before with
  | nil => exact .inl ⟨stream.takes_nil before, by simp [printAll]⟩
  | cons text texts ih =>
    cases hfirst : stream.failure? before text with
    | some failure =>
      refine .inr ⟨_, failure.fault, ⟨[], text, texts, failure, rfl, stream.takes_nil before, ?_, rfl⟩, ?_⟩
      · simpa using hfirst
      · simp [printAll, print, hfirst]
    | none =>
      have hprint : stream.printAll before (text :: texts) =
          stream.printAll (before ++ stream.outlet.rendered text) texts := by
        simp [printAll, print, hfirst]
      rw [hprint]
      rcases ih (before ++ stream.outlet.rendered text) with ⟨htakes, hall⟩ | ⟨shown, fault, hstops, hpart⟩
      · refine .inl ⟨takes_cons_iff.mpr ⟨hfirst, htakes⟩, ?_⟩
        rw [hall, List.flatMap_cons, List.append_assoc]
      · exact .inr ⟨shown, fault, hstops.cons hfirst, hpart⟩

end Stream

end InstrDecl
