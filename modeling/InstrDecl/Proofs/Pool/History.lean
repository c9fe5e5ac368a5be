import InstrDecl.Proofs.Pool.Invariant

namespace InstrDecl.Pool

variable {α ε β ω : Type} {jobs : Nat} {work : α → ω → Except ε β × ω}
variable {items : List α} {start : ω} {order : List Nat} {number : Nat} {result : Except ε β}

/-- The item of the given number had its turn in this order, in the world that the items before it
    left behind, and came to this. -/
def Turn (work : α → ω → Except ε β × ω) (items : List α) (start : ω) (order : List Nat) (number : Nat)
    (result : Except ε β) : Prop :=
  ∃ before after item, order = before ++ number :: after ∧ items[number]? = some item ∧
    result = (work item (worldAfter work items start before)).1

/-- What came of a turn does not depend on the turns after it. -/
theorem Turn.append (hturn : Turn work items start order number result) (later : List Nat) :
    Turn work items start (order ++ later) number result := by
  obtain ⟨before, after, item, rfl, hitem, hresult⟩ := hturn
  exact ⟨before, after ++ later, item, by simp, hitem, hresult⟩

/-- The first turn is taken in the world at the start, and the others in the world that it leaves. -/
theorem turn_cons_iff {first : Nat} {item : α} (hitem : items[first]? = some item) :
    Turn work items start (first :: order) number result ↔
      (number = first ∧ result = (work item start).1) ∨ Turn work items (work item start).2 order number result := by
  constructor
  · rintro ⟨before, after, other, hsplit, hother, hresult⟩
    cases before with
    | nil =>
      obtain ⟨rfl, rfl⟩ := List.cons.inj hsplit
      rw [hitem] at hother
      cases hother
      exact .inl ⟨rfl, hresult⟩
    | cons head before =>
      obtain ⟨rfl, rfl⟩ := List.cons.inj hsplit
      exact .inr ⟨before, after, other, rfl, hother, by simpa [worldAfter, hitem] using hresult⟩
  · rintro (⟨rfl, hresult⟩ | ⟨before, after, other, rfl, hother, hresult⟩)
    · exact ⟨[], order, item, rfl, hitem, hresult⟩
    · exact ⟨first :: before, after, other, rfl, hother, by simpa [worldAfter, hitem] using hresult⟩

/-- An outcome that is put together from what numbered items came to: the results of the first ones,
    or the error of one item after the results of all before it. -/
def Gathered (came : Nat → Except ε β → Prop) : Except ε (List β) → Prop
  | .ok results => ∀ number result, results[number]? = some result → came number (.ok result)
  | .error error => ∃ number, came number (.error error) ∧ ∀ earlier < number, ∃ result, came earlier (.ok result)

theorem Gathered.imp {came came' : Nat → Except ε β → Prop} {outcome : Except ε (List β)}
    (hgathered : Gathered came outcome) (himp : ∀ number result, came number result → came' number result) :
    Gathered came' outcome := by
  cases outcome with
  | ok results => exact fun number result hresult => himp _ _ (hgathered number result hresult)
  | error error =>
    obtain ⟨number, herror, hbefore⟩ := hgathered
    refine ⟨number, himp _ _ herror, fun earlier hlt => ?_⟩
    obtain ⟨result, hresult⟩ := hbefore earlier hlt
    exact ⟨result, himp _ _ hresult⟩

/-- All that has finished had its turn, and the reader has nothing that has not finished. -/
structure Recorded (work : α → ω → Except ε β × ω) (items : List α) (start : ω) (pool : Pool α ε β) : Prop where
  finished : ∀ entry ∈ pool.finished, Turn work items start pool.done entry.1 entry.2
  gathered : Gathered (fun number result => (number, result) ∈ pool.finished) pool.reader.outcome

/-- A step keeps the record: what it adds to the results came of a turn. -/
theorem Effect.recorded {pool after : Pool α ε β} {world world' : ω}
    (hsound : Sound (fun _ _ => True) work items start pool world) (hrecorded : Recorded work items start pool)
    (heffect : Effect jobs work pool world after world') : Recorded work items start after := by
  obtain ⟨hfinished, hgathered⟩ := hrecorded
  cases heffect with
  | start item rest hwaiting hroom => exact ⟨hfinished, hgathered⟩
  | finish item number hrunning =>
    have hdone : done { pool with
        running := pool.running.filter (·.2 != number)
        finished := pool.finished ++ [(number, (work item world).1)] } = pool.done ++ [number] := by
      simp [done]
    refine ⟨?_, hgathered.imp fun _ _ hmem => List.mem_append_left _ hmem⟩
    rw [hdone]
    intro entry hentry
    rcases List.mem_append.mp hentry with hold | hnew
    · exact (hfinished entry hold).append [number]
    · obtain rfl := List.mem_singleton.mp hnew
      exact ⟨pool.done, [], item, rfl, hsound.running _ hrunning, by rw [← hsound.world]⟩
  | take taken result hreader hleft hresult =>
    rw [hreader] at hgathered
    refine ⟨hfinished, ?_⟩
    intro number entry hentry
    rw [List.getElem?_append] at hentry
    split at hentry
    · exact hgathered number entry hentry
    · next hge =>
      obtain ⟨hlast, rfl⟩ := List.getElem?_eq_some_iff.mp hentry
      simp only [List.length_singleton] at hlast
      obtain rfl : number = taken.length := by omega
      simpa using mem_of_lookup hresult
  | fail taken error hreader hleft hresult =>
    rw [hreader] at hgathered
    refine ⟨hfinished, taken.length, mem_of_lookup hresult, fun earlier hlt => ?_⟩
    exact ⟨_, hgathered earlier _ (List.getElem?_eq_getElem hlt)⟩
  | conclude taken hreader hall =>
    rw [hreader] at hgathered
    exact ⟨hfinished, hgathered⟩
  | withdraw error next hreader hleft =>
    rw [hreader] at hgathered
    exact ⟨hfinished, hgathered⟩
  | raise error next hreader hall =>
    rw [hreader] at hgathered
    exact ⟨hfinished, hgathered⟩

/-- At every point of every schedule the reader has what came of turns in the order in which items
    have finished. -/
theorem gathered_of_play {schedule : List Event} {pool : Pool α ε β} {world : ω}
    (hplay : play jobs work schedule (new items) start = some (pool, world)) :
    Gathered (Turn work items start pool.done) pool.reader.outcome := by
  have hboth : Sound (fun _ _ => True) work items start pool world ∧ Recorded work items start pool := by
    refine play_preserves (P := fun pool world =>
      Sound (fun _ _ => True) work items start pool world ∧ Recorded work items start pool) ?_ hplay
      ⟨sound_new items start, ?_⟩
    · rintro pool world after world' ⟨hsound, hrecorded⟩ heffect
      exact ⟨heffect.sound (fun _ _ => trivial) hsound, heffect.recorded hsound hrecorded⟩
    · refine ⟨fun entry hentry => absurd hentry (by simp [new]), ?_⟩
      intro number result hresult
      simp at hresult
  exact hboth.2.gathered.imp fun number result hmem => hboth.2.finished _ hmem

end InstrDecl.Pool
