namespace InstrDecl

/-- What the reader of a pool is doing. -/
inductive Reader (ε β : Type)
  /-- It has taken these results and waits for the next. -/
  | reading (taken : List β)
  /-- It met an error and has withdrawn the waiting items before number `next`. -/
  | cancelling (error : ε) (next : Nat)
  /-- It has taken all results. -/
  | returned (results : List β)
  /-- It has withdrawn all waiting items. -/
  | raised (error : ε)

/-- What a reader has so far; once it is done, the outcome of the run. -/
def Reader.outcome {ε β : Type} : Reader ε β → Except ε (List β)
  | reading taken => .ok taken
  | cancelling error _ => .error error
  | returned results => .ok results
  | raised error => .error error

/-- A pool that works on items of type `α`. They wait in a queue and are started in order, at most so many
    at a time as there are jobs, and they finish in any order. A reader takes the results in the order of the
    items and stops at the first error, whereupon it withdraws the items that have not been started. Items
    are numbered from zero, and `size` is how many there were at the start. -/
structure Pool (α ε β : Type) where
  size : Nat
  waiting : List (α × Nat)
  running : List (α × Nat)
  finished : List (Nat × Except ε β)
  reader : Reader ε β

namespace Pool

variable {α ε β ω : Type}

/-- A pool with all items waiting. -/
def new (items : List α) : Pool α ε β :=
  { size := items.length, waiting := items.zipIdx, running := [], finished := [], reader := .reading [] }

/-- What can happen in a pool. -/
inductive Event
  /-- The first waiting item is started. -/
  | start
  /-- A running item finishes. -/
  | finish (number : Nat)
  /-- The reader takes the next result. -/
  | read
  /-- The reader withdraws the next item. -/
  | cancel
  deriving DecidableEq, Repr

/-- The reader's next step on the results. -/
def readNext? (pool : Pool α ε β) (taken : List β) : Option (Reader ε β) :=
  if pool.size ≤ taken.length then some (.returned taken)
  else match pool.finished.lookup taken.length with
    | none => none
    | some (.ok result) => some (.reading (taken ++ [result]))
    | some (.error error) => some (.cancelling error 0)

/-- What an event does to a pool and to the world in which the items are worked on; an event that
    cannot happen has no effect to speak of. -/
def step? (jobs : Nat) (work : α → ω → Except ε β × ω) (event : Event) (pool : Pool α ε β) (world : ω) :
    Option (Pool α ε β × ω) :=
  match event with
  | .start =>
    match pool.waiting with
    | [] => none
    | item :: rest =>
      if pool.running.length < jobs then
        some ({ pool with waiting := rest, running := pool.running ++ [item] }, world)
      else none
  | .finish number =>
    match pool.running.find? (·.2 == number) with
    | none => none
    | some (item, _) =>
      let (result, world) := work item world
      some ({ pool with
        running := pool.running.filter (·.2 != number)
        finished := pool.finished ++ [(number, result)] }, world)
  | .read =>
    match pool.reader with
    | .reading taken => (pool.readNext? taken).map fun reader => ({ pool with reader }, world)
    | _ => none
  | .cancel =>
    match pool.reader with
    | .cancelling error next =>
      if next < pool.size then
        some ({ pool with
          waiting := pool.waiting.filter (·.2 != next)
          reader := .cancelling error (next + 1) }, world)
      else some ({ pool with reader := .raised error }, world)
    | _ => none

/-- One step under some schedule. -/
def Step (jobs : Nat) (work : α → ω → Except ε β × ω) (before after : Pool α ε β × ω) : Prop :=
  ∃ event, step? jobs work event before.1 before.2 = some after

/-- The events to try, in order: the reader goes first, then an item is started, and only when that
    is impossible does the item that was started first finish. -/
def agenda (pool : Pool α ε β) : List Event :=
  [.read, .cancel, .start] ++ (pool.running.take 1).map fun item => .finish item.2

/-- The first step on the agenda that can happen. -/
def advance? (jobs : Nat) (work : α → ω → Except ε β × ω) (pool : Pool α ε β) (world : ω) :
    Option (Pool α ε β × ω) :=
  pool.agenda.findSome? fun event => step? jobs work event pool world

/-- The step that is chosen is one that some schedule takes. -/
theorem step_of_advance? {jobs : Nat} {work : α → ω → Except ε β × ω} {pool : Pool α ε β} {world : ω}
    {after : Pool α ε β × ω} (hadvance : advance? jobs work pool world = some after) :
    Step jobs work (pool, world) after := by
  obtain ⟨event, _, hstep⟩ := List.exists_of_findSome?_eq_some hadvance
  exact ⟨event, hstep⟩

/-- Runs a pool for at most `fuel` steps. -/
def runFor (jobs : Nat) (work : α → ω → Except ε β × ω) : Nat → Pool α ε β → ω → Pool α ε β × ω
  | 0, pool, world => (pool, world)
  | fuel + 1, pool, world =>
    match advance? jobs work pool world with
    | none => (pool, world)
    | some (pool, world) => runFor jobs work fuel pool world

/-- Works on all items. Each of them is started, finished, taken and withdrawn at most once, and the
    reader ends twice at most, which bounds the number of steps. -/
def run (jobs : Nat) (work : α → ω → Except ε β × ω) (items : List α) (world : ω) :
    Except ε (List β) × ω :=
  let (pool, world) := runFor jobs work (4 * items.length + 2) (new items) world
  (pool.reader.outcome, world)

end Pool

end InstrDecl
