import InstrDecl.Proofs.Pool.Outcome
import InstrDecl.Proofs.Pool.Schedule

namespace InstrDecl.Pool

variable {α ε β ω : Type} {jobs : Nat} {work : α → ω → Except ε β × ω}
variable {R : α → Except ε β → Prop} {items : List α} {start : ω}

/-- The numbers of the items that have been worked on, in the order in which they finished. -/
def done (pool : Pool α ε β) : List Nat :=
  pool.finished.map (·.1)

/-- The numbers of the items that wait, run or have finished. -/
def numbers (pool : Pool α ε β) : List Nat :=
  pool.waiting.map (·.2) ++ (pool.running.map (·.2) ++ pool.done)

/-- The world after the items of the given numbers were worked on in this order. -/
def worldAfter (work : α → ω → Except ε β × ω) (items : List α) (world : ω) (order : List Nat) : ω :=
  (order.filterMap (items[·]?)).foldl (fun world item => (work item world).2) world

/-- These are results of the first items, all of which have been worked on. -/
def Taken (R : α → Except ε β → Prop) (items : List α) (done : List Nat) (taken : List β) : Prop :=
  ∀ number result, taken[number]? = some result →
    number ∈ done ∧ ∃ item, items[number]? = some item ∧ R item (.ok result)

/-- What the reader knows of the items that have been worked on. -/
def ReaderSound (R : α → Except ε β → Prop) (items : List α) (done : List Nat) : Reader ε β → Prop
  | .reading taken => Taken R items done taken
  | .returned results => Taken R items done results ∧ results.length = items.length
  | .cancelling error _ | .raised error =>
    ∃ taken item, Taken R items done taken ∧ taken.length ∈ done ∧
      items[taken.length]? = some item ∧ R item (.error error)

/-- The reader has met no error yet. -/
def NoError : Reader ε β → Prop
  | .reading _ | .returned _ => True
  | .cancelling _ _ | .raised _ => False

/-- The invariant of a pool that was started on `items` in the world `start`: every item is in one place at
    most, what has finished is a result of its item, and the reader has taken results from the front without
    a gap. -/
structure Sound (R : α → Except ε β → Prop) (work : α → ω → Except ε β × ω) (items : List α) (start : ω)
    (pool : Pool α ε β) (world : ω) : Prop where
  size : pool.size = items.length
  waiting : ∀ item ∈ pool.waiting, items[item.2]? = some item.1
  running : ∀ item ∈ pool.running, items[item.2]? = some item.1
  finished : ∀ entry ∈ pool.finished, ∃ item, items[entry.1]? = some item ∧ R item entry.2
  once : pool.numbers.Nodup
  kept : NoError pool.reader → ∀ number < items.length, number ∈ pool.numbers
  reader : ReaderSound R items pool.done pool.reader
  world : world = worldAfter work items start pool.done

theorem Taken.mono {done done' : List Nat} {taken : List β} (htaken : Taken R items done taken)
    (hsubset : done ⊆ done') : Taken R items done' taken := by
  intro number result hresult
  obtain ⟨hmem, hitem⟩ := htaken number result hresult
  exact ⟨hsubset hmem, hitem⟩

/-- Results are taken in the order of the items, the next one after those that were taken. -/
theorem Taken.append {done : List Nat} {taken : List β} {result : β} {item : α}
    (htaken : Taken R items done taken) (hdone : taken.length ∈ done)
    (hitem : items[taken.length]? = some item) (hresult : R item (.ok result)) :
    Taken R items done (taken ++ [result]) := by
  intro number entry hentry
  rw [List.getElem?_append] at hentry
  split at hentry
  · exact htaken number entry hentry
  · next hge =>
    obtain ⟨hlast, hsame⟩ := List.getElem?_eq_some_iff.mp hentry
    simp only [List.length_singleton] at hlast
    obtain rfl : number = taken.length := by omega
    simp only [Nat.sub_self, List.getElem_cons_zero] at hsame
    subst hsame
    exact ⟨hdone, item, hitem, hresult⟩

theorem Taken.length_le {done : List Nat} {taken : List β} (htaken : Taken R items done taken) :
    taken.length ≤ items.length := by
  by_contra hnot
  have hinside : items.length < taken.length := by omega
  obtain ⟨_, item, hitem, _⟩ := htaken items.length _ (List.getElem?_eq_getElem hinside)
  simp at hitem

theorem ReaderSound.mono {done done' : List Nat} {reader : Reader ε β}
    (hreader : ReaderSound R items done reader) (hsubset : done ⊆ done') :
    ReaderSound R items done' reader := by
  cases reader with
  | reading taken => exact Taken.mono hreader hsubset
  | returned results => exact ⟨hreader.1.mono hsubset, hreader.2⟩
  | cancelling error next =>
    obtain ⟨taken, item, htaken, hdone, hitem⟩ := hreader
    exact ⟨taken, item, htaken.mono hsubset, hsubset hdone, hitem⟩
  | raised error =>
    obtain ⟨taken, item, htaken, hdone, hitem⟩ := hreader
    exact ⟨taken, item, htaken.mono hsubset, hsubset hdone, hitem⟩

/-- Before the first step all items wait and nothing was taken. -/
theorem sound_new (items : List α) (start : ω) : Sound R work items start (new items) start where
  size := rfl
  waiting := by
    intro item hitem
    exact List.mem_zipIdx_iff_getElem?.mp hitem
  running := by simp [new]
  finished := by simp [new]
  once := by simp [numbers, done, new, List.zipIdx_map_snd, List.nodup_range']
  kept := by
    intro _ number hnumber
    simp [numbers, done, new, List.zipIdx_map_snd, List.mem_range', hnumber]
  reader := by
    intro number result hresult
    simp at hresult
  world := by simp [worldAfter, done, new]

/-- Starting an item moves its number, and changes no other. -/
theorem numbers_start {pool : Pool α ε β} {item : α × Nat} {rest : List (α × Nat)}
    (hwaiting : pool.waiting = item :: rest) :
    pool.numbers.Perm (numbers { pool with waiting := rest, running := pool.running ++ [item] }) := by
  simp only [numbers, done, hwaiting, List.map_cons, List.map_append, List.map_nil, List.cons_append,
    List.append_assoc, List.nil_append]
  rw [← List.append_assoc, ← List.append_assoc]
  exact List.perm_middle.symm

/-- Finishing an item moves its number, provided that no other item has the same. -/
theorem numbers_finish {pool : Pool α ε β} {item : α} {number : Nat} (result : Except ε β)
    (honce : pool.numbers.Nodup) (hrunning : (item, number) ∈ pool.running) :
    pool.numbers.Perm (numbers { pool with
      running := pool.running.filter (·.2 != number)
      finished := pool.finished ++ [(number, result)] }) := by
  have hnodup : (pool.running.map (·.2)).Nodup :=
    (List.nodup_append.mp (List.nodup_append.mp honce).2.1).1
  have hmem : number ∈ pool.running.map (·.2) := List.mem_map.mpr ⟨(item, number), hrunning, rfl⟩
  have hrest : (pool.running.filter (·.2 != number)).map (·.2) = (pool.running.map (·.2)).erase number := by
    rw [hnodup.erase_eq_filter, List.filter_map]
    rfl
  simp only [numbers, done, List.map_append, List.map_cons, List.map_nil, hrest]
  apply List.Perm.append_left
  rw [← List.append_assoc]
  exact ((List.perm_cons_erase hmem).append_right _).trans (List.perm_append_singleton number _).symm

/-- An item that is withdrawn leaves the pool; all others keep their places. -/
theorem numbers_withdraw (pool : Pool α ε β) (next : Nat) (reader : Reader ε β) :
    (numbers { pool with waiting := pool.waiting.filter (·.2 != next), reader }).Sublist pool.numbers :=
  (List.filter_sublist.map _).append_right _

theorem worldAfter_append {world : ω} {order : List Nat} {number : Nat} {item : α}
    (hitem : items[number]? = some item) :
    worldAfter work items world (order ++ [number]) = (work item (worldAfter work items world order)).2 := by
  simp [worldAfter, List.filterMap_append, hitem]

/-- The entry that the reader finds under a number is the result of the item of that number. -/
theorem Sound.of_lookup {pool : Pool α ε β} {world : ω} {number : Nat} {result : Except ε β}
    (hsound : Sound R work items start pool world)
    (hlookup : pool.finished.lookup number = some result) :
    number ∈ pool.done ∧ ∃ item, items[number]? = some item ∧ R item result := by
  obtain ⟨before, after, hsplit, _⟩ := List.lookup_eq_some_iff.mp hlookup
  have hmem : (number, result) ∈ pool.finished := by simp [hsplit]
  exact ⟨List.mem_map.mpr ⟨_, hmem, rfl⟩, hsound.finished _ hmem⟩

/-- Whatever happens in a pool keeps the invariant. -/
theorem Effect.sound {pool after : Pool α ε β} {world world' : ω}
    (hwork : ∀ item world, R item (work item world).1)
    (hsound : Sound R work items start pool world)
    (heffect : Effect jobs work pool world after world') :
    Sound R work items start after world' := by
  cases heffect with
  | start item rest hwaiting hroom =>
    have hitem : items[item.2]? = some item.1 := hsound.waiting item (by simp [hwaiting])
    have hperm := numbers_start hwaiting
    refine { hsound with waiting := ?_, running := ?_, once := ?_, kept := ?_ }
    · intro other hother
      exact hsound.waiting other (by simp [hwaiting, hother])
    · intro other hother
      rcases List.mem_append.mp hother with hold | hnew
      · exact hsound.running other hold
      · obtain rfl := List.mem_singleton.mp hnew
        exact hitem
    · exact hperm.nodup_iff.mp hsound.once
    · intro hreader number hnumber
      exact hperm.subset (hsound.kept hreader number hnumber)
  | finish item number hrunning =>
    have hitem : items[number]? = some item := hsound.running _ hrunning
    have hperm := numbers_finish (work item world).1 hsound.once hrunning
    have hdone : done { pool with
        running := pool.running.filter (·.2 != number)
        finished := pool.finished ++ [(number, (work item world).1)] } = pool.done ++ [number] := by
      simp [done]
    refine { hsound with running := ?_, finished := ?_, once := ?_, kept := ?_, reader := ?_, world := ?_ }
    · intro other hother
      exact hsound.running other (List.mem_of_mem_filter hother)
    · intro entry hentry
      rcases List.mem_append.mp hentry with hold | hnew
      · exact hsound.finished entry hold
      · obtain rfl := List.mem_singleton.mp hnew
        exact ⟨item, hitem, hwork item world⟩
    · exact hperm.nodup_iff.mp hsound.once
    · intro hreader other hother
      exact hperm.subset (hsound.kept hreader other hother)
    · rw [hdone]
      exact hsound.reader.mono (List.subset_append_left _ _)
    · rw [hdone, worldAfter_append hitem, ← hsound.world]
  | take taken result hreader hleft hresult =>
    have htaken := hsound.reader
    rw [hreader] at htaken
    obtain ⟨hdone, item, hitem, hok⟩ := hsound.of_lookup hresult
    exact { hsound with
      kept := fun _ => hsound.kept (by rw [hreader]; trivial)
      reader := Taken.append htaken hdone hitem hok }
  | fail taken error hreader hleft hresult =>
    have htaken := hsound.reader
    rw [hreader] at htaken
    obtain ⟨hdone, item, hitem, herror⟩ := hsound.of_lookup hresult
    exact { hsound with
      kept := False.elim
      reader := ⟨taken, item, htaken, hdone, hitem, herror⟩ }
  | conclude taken hreader hall =>
    have htaken := hsound.reader
    rw [hreader] at htaken
    have hlength := Taken.length_le htaken
    have hsize := hsound.size
    exact { hsound with
      kept := fun _ => hsound.kept (by rw [hreader]; trivial)
      reader := ⟨htaken, by omega⟩ }
  | withdraw error next hreader hleft =>
    have herror := hsound.reader
    rw [hreader] at herror
    refine { hsound with waiting := ?_, once := ?_, kept := False.elim, reader := herror }
    · intro item hitem
      exact hsound.waiting item (List.mem_of_mem_filter hitem)
    · exact hsound.once.sublist (numbers_withdraw pool next _)
  | raise error next hreader hall =>
    have herror := hsound.reader
    rw [hreader] at herror
    exact { hsound with kept := False.elim, reader := herror }

/-- The invariant holds at every point of every schedule. -/
theorem sound_of_play {schedule : List Event} {pool : Pool α ε β} {world : ω}
    (hwork : ∀ item world, R item (work item world).1)
    (hplay : play jobs work schedule (new items) start = some (pool, world)) :
    Sound R work items start pool world :=
  play_preserves (fun _ _ _ _ hsound heffect => heffect.sound hwork hsound) hplay (sound_new items start)

end InstrDecl.Pool
