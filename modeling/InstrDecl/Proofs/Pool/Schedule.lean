import InstrDecl.Compile.Pool

namespace InstrDecl.Pool

variable {α ε β ω : Type} {jobs : Nat} {work : α → ω → Except ε β × ω}

/-- The pool and the world after the events of a schedule, if they can happen in this order. -/
def play (jobs : Nat) (work : α → ω → Except ε β × ω) :
    List Event → Pool α ε β → ω → Option (Pool α ε β × ω)
  | [], pool, world => some (pool, world)
  | event :: rest, pool, world =>
    match step? jobs work event pool world with
    | none => none
    | some (pool, world) => play jobs work rest pool world

/-- Nothing can happen in the pool any more. -/
def Halted (jobs : Nat) (work : α → ω → Except ε β × ω) (pool : Pool α ε β) (world : ω) : Prop :=
  ∀ event, step? jobs work event pool world = none

/-- Everything that can happen in a pool, with what has to hold for it. -/
inductive Effect (jobs : Nat) (work : α → ω → Except ε β × ω) (pool : Pool α ε β) (world : ω) :
    Pool α ε β → ω → Prop
  | start (item : α × Nat) (rest : List (α × Nat)) (hwaiting : pool.waiting = item :: rest)
      (hroom : pool.running.length < jobs) :
      Effect jobs work pool world
        { pool with waiting := rest, running := pool.running ++ [item] } world
  | finish (item : α) (number : Nat) (hrunning : (item, number) ∈ pool.running) :
      Effect jobs work pool world
        { pool with
          running := pool.running.filter (·.2 != number)
          finished := pool.finished ++ [(number, (work item world).1)] } (work item world).2
  | take (taken : List β) (result : β) (hreader : pool.reader = .reading taken)
      (hleft : taken.length < pool.size)
      (hresult : pool.finished.lookup taken.length = some (.ok result)) :
      Effect jobs work pool world { pool with reader := .reading (taken ++ [result]) } world
  | fail (taken : List β) (error : ε) (hreader : pool.reader = .reading taken)
      (hleft : taken.length < pool.size)
      (hresult : pool.finished.lookup taken.length = some (.error error)) :
      Effect jobs work pool world { pool with reader := .cancelling error 0 } world
  | conclude (taken : List β) (hreader : pool.reader = .reading taken) (hall : pool.size ≤ taken.length) :
      Effect jobs work pool world { pool with reader := .returned taken } world
  | withdraw (error : ε) (next : Nat) (hreader : pool.reader = .cancelling error next)
      (hleft : next < pool.size) :
      Effect jobs work pool world
        { pool with
          waiting := pool.waiting.filter (·.2 != next)
          reader := .cancelling error (next + 1) } world
  | raise (error : ε) (next : Nat) (hreader : pool.reader = .cancelling error next)
      (hall : pool.size ≤ next) :
      Effect jobs work pool world { pool with reader := .raised error } world

/-- Every step has one of the effects, whatever event it is for. -/
theorem effect_of_step? {event : Event} {pool after : Pool α ε β} {world world' : ω}
    (hstep : step? jobs work event pool world = some (after, world')) :
    Effect jobs work pool world after world' := by
  cases event with
  | start =>
    simp only [step?] at hstep
    split at hstep
    · cases hstep
    · next item rest hwaiting =>
      split at hstep
      · next hroom =>
        cases hstep
        exact .start item rest hwaiting hroom
      · cases hstep
  | finish number =>
    simp only [step?] at hstep
    split at hstep
    · cases hstep
    · next item found hfind =>
      cases hstep
      have hfound : found = number := by simpa using List.find?_some hfind
      subst hfound
      exact .finish item found (List.mem_of_find?_eq_some hfind)
  | read =>
    simp only [step?] at hstep
    split at hstep
    · next taken hreader =>
      obtain ⟨reader, hnext, heq⟩ := Option.map_eq_some_iff.mp hstep
      cases heq
      unfold readNext? at hnext
      split at hnext
      · next hall =>
        cases hnext
        exact .conclude taken hreader hall
      · next hleft =>
        have hleft : taken.length < pool.size := by omega
        split at hnext
        · cases hnext
        · next result hresult =>
          cases hnext
          exact .take taken result hreader hleft hresult
        · next error hresult =>
          cases hnext
          exact .fail taken error hreader hleft hresult
    · cases hstep
  | cancel =>
    simp only [step?] at hstep
    split at hstep
    · next error next hreader =>
      split at hstep
      · next hleft =>
        cases hstep
        exact .withdraw error next hreader hleft
      · next hall =>
        cases hstep
        exact .raise error next hreader (by omega)
    · cases hstep

/-- What one event preserves, a schedule preserves. -/
theorem play_preserves {P : Pool α ε β → ω → Prop}
    (hpreserves : ∀ pool world after world', P pool world →
      Effect jobs work pool world after world' → P after world') :
    ∀ {schedule : List Event} {pool after : Pool α ε β} {world world' : ω},
      play jobs work schedule pool world = some (after, world') → P pool world → P after world' := by
  intro schedule
  induction schedule with
  | nil =>
    intro pool after world world' hplay hpool
    cases hplay
    exact hpool
  | cons event rest ih =>
    intro pool after world world' hplay hpool
    simp only [play] at hplay
    split at hplay
    · cases hplay
    · next next nextWorld hstep =>
      exact ih hplay (hpreserves pool world next nextWorld hpool (effect_of_step? hstep))

/-- The most steps that a reader of a pool of `size` items can still take. -/
def readerStepsLeft (size : Nat) : Reader ε β → Nat
  | .reading taken => size - taken.length + size + 2
  | .cancelling _ next => size - next + 1
  | .returned _ => 0
  | .raised _ => 0

/-- The most steps that can still be taken in a pool: a waiting item is yet to be started and
    finished, a running one to be finished. -/
def stepsLeft (pool : Pool α ε β) : Nat :=
  2 * pool.waiting.length + pool.running.length + readerStepsLeft pool.size pool.reader

theorem stepsLeft_new (items : List α) : (new items : Pool α ε β).stepsLeft = 4 * items.length + 2 := by
  simp only [stepsLeft, new, readerStepsLeft, List.length_zipIdx, List.length_nil]
  omega

/-- Every effect uses up a step, so no schedule goes on for ever. -/
theorem Effect.stepsLeft_lt {pool after : Pool α ε β} {world world' : ω}
    (heffect : Effect jobs work pool world after world') : after.stepsLeft < pool.stepsLeft := by
  cases heffect with
  | start item rest hwaiting hroom =>
    simp only [stepsLeft, hwaiting, List.length_cons, List.length_append, List.length_nil]
    omega
  | finish item number hrunning =>
    have hshorter : (pool.running.filter (·.2 != number)).length < pool.running.length :=
      List.length_filter_lt_length_iff_exists.mpr ⟨(item, number), hrunning, by simp⟩
    simp only [stepsLeft]
    omega
  | take taken result hreader hleft hresult =>
    simp only [stepsLeft, hreader, readerStepsLeft, List.length_append, List.length_singleton]
    omega
  | fail taken error hreader hleft hresult =>
    simp only [stepsLeft, hreader, readerStepsLeft]
    omega
  | conclude taken hreader hall =>
    simp only [stepsLeft, hreader, readerStepsLeft]
    omega
  | withdraw error next hreader hleft =>
    have hshorter := List.length_filter_le (·.2 != next) pool.waiting
    simp only [stepsLeft, hreader, readerStepsLeft]
    omega
  | raise error next hreader hall =>
    simp only [stepsLeft, hreader, readerStepsLeft]
    omega

/-- A schedule cannot be longer than there are steps left, whatever is chosen. -/
theorem length_add_stepsLeft_le {schedule : List Event} {pool after : Pool α ε β} {world world' : ω}
    (hplay : play jobs work schedule pool world = some (after, world')) :
    schedule.length + after.stepsLeft ≤ pool.stepsLeft := by
  induction schedule generalizing pool world with
  | nil =>
    cases hplay
    simp
  | cons event rest ih =>
    simp only [play] at hplay
    split at hplay
    · cases hplay
    · next next nextWorld hstep =>
      have hrest := ih hplay
      have hfirst := (effect_of_step? hstep).stepsLeft_lt
      simp only [List.length_cons]
      omega

/-- When the agenda offers no step, no other schedule does: as long as an item is running, the one
    that was started first can finish. -/
theorem halted_of_advance?_eq_none {pool : Pool α ε β} {world : ω}
    (hadvance : advance? jobs work pool world = none) : Halted jobs work pool world := by
  have hagenda : ∀ event ∈ pool.agenda, step? jobs work event pool world = none := by
    simpa [advance?, List.findSome?_eq_none_iff] using hadvance
  have hidle : pool.running = [] := by
    cases hrunning : pool.running with
    | nil => rfl
    | cons item rest =>
      have hfinish := hagenda (.finish item.2) (by simp [agenda, hrunning])
      simp [step?, hrunning] at hfinish
  intro event
  cases event with
  | start => exact hagenda .start (by simp [agenda])
  | finish number => simp [step?, hidle]
  | read => exact hagenda .read (by simp [agenda])
  | cancel => exact hagenda .cancel (by simp [agenda])

/-- With enough fuel the pool that is run takes a schedule to its end. -/
theorem exists_play_runFor (jobs : Nat) (work : α → ω → Except ε β × ω) {fuel : Nat}
    (pool : Pool α ε β) (world : ω) (hfuel : pool.stepsLeft ≤ fuel) :
    ∃ schedule, play jobs work schedule pool world = some (runFor jobs work fuel pool world) ∧
      Halted jobs work (runFor jobs work fuel pool world).1 (runFor jobs work fuel pool world).2 := by
  induction fuel generalizing pool world with
  | zero =>
    refine ⟨[], rfl, fun event => ?_⟩
    cases hstep : step? jobs work event pool world with
    | none => exact hstep
    | some next =>
      have hless := (effect_of_step? hstep).stepsLeft_lt
      omega
  | succ fuel ih =>
    cases hadvance : advance? jobs work pool world with
    | none =>
      refine ⟨[], by simp [play, runFor, hadvance], ?_⟩
      simpa only [runFor, hadvance] using halted_of_advance?_eq_none hadvance
    | some next =>
      obtain ⟨event, hstep⟩ := step_of_advance? hadvance
      have hless : next.1.stepsLeft < pool.stepsLeft := (effect_of_step? hstep).stepsLeft_lt
      have hrest : next.1.stepsLeft ≤ fuel := by omega
      obtain ⟨schedule, hplay, hhalted⟩ := ih next.1 next.2 hrest
      refine ⟨event :: schedule, ?_, ?_⟩
      · simp only [play, runFor, hadvance]
        rw [hstep]
        exact hplay
      · simpa only [runFor, hadvance] using hhalted

end InstrDecl.Pool
