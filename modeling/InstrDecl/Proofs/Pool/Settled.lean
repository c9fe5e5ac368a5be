import InstrDecl.Proofs.Pool.Invariant

namespace InstrDecl.Pool

variable {α ε β ω : Type} {jobs : Nat} {work : α → ω → Except ε β × ω}
variable {R : α → Except ε β → Prop} {items : List α} {start : ω}

/-- An item that is worked on can still finish. -/
theorem Halted.running_eq_nil {pool : Pool α ε β} {world : ω} (hhalted : Halted jobs work pool world) :
    pool.running = [] := by
  cases hrunning : pool.running with
  | nil => rfl
  | cons item rest =>
    have hfinish := hhalted (.finish item.2)
    simp [step?, hrunning] at hfinish

/-- An item that waits can still be started, once nothing else is worked on. -/
theorem Halted.waiting_eq_nil {pool : Pool α ε β} {world : ω} (hjobs : 0 < jobs)
    (hhalted : Halted jobs work pool world) : pool.waiting = [] := by
  cases hwaiting : pool.waiting with
  | nil => rfl
  | cons item rest =>
    have hstart := hhalted .start
    simp [step?, hwaiting, hhalted.running_eq_nil, hjobs] at hstart

/-- While results are missing, an item is in the pool that has not finished. -/
theorem Sound.not_halted_of_reading {pool : Pool α ε β} {world : ω} {taken : List β} (hjobs : 0 < jobs)
    (hsound : Sound R work items start pool world) (hreader : pool.reader = .reading taken) :
    ¬ Halted jobs work pool world := by
  intro hhalted
  have hread := hhalted .read
  simp only [step?, hreader, Option.map_eq_none_iff, readNext?] at hread
  split at hread
  · cases hread
  · next hleft =>
    have hsize := hsound.size
    have hkept : taken.length ∈ pool.numbers :=
      hsound.kept (by rw [hreader]; trivial) taken.length (by omega)
    have hdone : taken.length ∈ pool.done := by
      simpa [numbers, hhalted.running_eq_nil, hhalted.waiting_eq_nil hjobs] using hkept
    obtain ⟨entry, hentry, hnumber⟩ := List.mem_map.mp hdone
    have hfound : (pool.finished.lookup taken.length).isSome :=
      List.lookup_isSome_iff.mpr ⟨entry, hentry, by simp [hnumber]⟩
    split at hread
    · next hnone => simp [hnone] at hfound
    · cases hread
    · cases hread

/-- An error is raised when all items that were not started are withdrawn. -/
theorem not_halted_of_cancelling {pool : Pool α ε β} {world : ω} {error : ε} {next : Nat}
    (hreader : pool.reader = .cancelling error next) : ¬ Halted jobs work pool world := by
  intro hhalted
  have hcancel := hhalted .cancel
  simp only [step?, hreader] at hcancel
  split at hcancel <;> cases hcancel

/-- When all results were taken, each is that of its item. -/
theorem Taken.forall₂ {done : List Nat} {results : List β} (htaken : Taken R items done results)
    (hlength : results.length = items.length) :
    List.Forall₂ (fun item result => R item (.ok result)) items results := by
  refine List.forall₂_iff_get.mpr ⟨hlength.symm, fun number hitem hresult => ?_⟩
  obtain ⟨_, item, hget, hok⟩ := htaken number _ (List.getElem?_eq_getElem hresult)
  obtain ⟨_, rfl⟩ := List.getElem?_eq_some_iff.mp hget
  exact hok

/-- No item is worked on twice. -/
theorem Sound.done_nodup {pool : Pool α ε β} {world : ω}
    (hsound : Sound R work items start pool world) : pool.done.Nodup :=
  (List.nodup_append.mp (List.nodup_append.mp hsound.once).2.1).2.1

theorem Sound.lt_of_mem_done {pool : Pool α ε β} {world : ω} {number : Nat}
    (hsound : Sound R work items start pool world) (hdone : number ∈ pool.done) :
    number < items.length := by
  obtain ⟨entry, hentry, rfl⟩ := List.mem_map.mp hdone
  obtain ⟨item, hitem, _⟩ := hsound.finished entry hentry
  exact (List.getElem?_eq_some_iff.mp hitem).1

/-- Once nothing can happen any more, the items are settled: either all results are there, in order
    and each from one piece of work, or the error is that of the first item that fails. -/
theorem Sound.settles {pool : Pool α ε β} {world : ω} (hjobs : 0 < jobs)
    (hsound : Sound R work items start pool world) (hhalted : Halted jobs work pool world) :
    Settles R items pool.done pool.reader.outcome where
  once := hsound.done_nodup
  within := fun _ hdone => hsound.lt_of_mem_done hdone
  ends := by
    have hknown := hsound.reader
    cases hreader : pool.reader with
    | reading taken => exact absurd hhalted (hsound.not_halted_of_reading hjobs hreader)
    | cancelling error next => exact absurd hhalted (not_halted_of_cancelling hreader)
    | returned results =>
      rw [hreader] at hknown
      obtain ⟨htaken, hlength⟩ := hknown
      refine ⟨htaken.forall₂ hlength, ?_⟩
      refine (List.perm_ext_iff_of_nodup hsound.done_nodup List.nodup_range).mpr fun number => ?_
      rw [List.mem_range]
      constructor
      · exact hsound.lt_of_mem_done
      · intro hlt
        exact (htaken number _ (List.getElem?_eq_getElem (hlength ▸ hlt))).1
    | raised error =>
      rw [hreader] at hknown
      obtain ⟨taken, item, htaken, hdone, hitem, herror⟩ := hknown
      refine ⟨taken.length, item, hitem, herror, ?_, ?_⟩
      · intro earlier hlt
        obtain ⟨_, other, hother, hok⟩ := htaken earlier _ (List.getElem?_eq_getElem hlt)
        exact ⟨other, _, hother, hok⟩
      · intro earlier hle
        rcases Nat.lt_or_eq_of_le hle with hlt | rfl
        · exact (htaken earlier _ (List.getElem?_eq_getElem hlt)).1
        · exact hdone

end InstrDecl.Pool
