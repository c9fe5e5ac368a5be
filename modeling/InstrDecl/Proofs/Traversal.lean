import Mathlib.Data.List.Forall2

namespace InstrDecl

variable {α β ε : Type} {f : α → Except ε β} {xs : List α}

/-- A pass succeeds exactly when it does so on every element. -/
theorem mapM_eq_ok_iff {ys : List β} :
    xs.mapM f = .ok ys ↔ List.Forall₂ (fun x y => f x = .ok y) xs ys := by
  induction xs generalizing ys with
  | nil =>
    rw [List.forall₂_nil_left_iff]
    exact ⟨fun h => (Except.ok.inj h).symm, fun h => by rw [h]; rfl⟩
  | cons x rest ih =>
    rw [List.mapM_cons, List.forall₂_cons_left_iff]
    cases hx : f x with
    | error e =>
      constructor
      · intro h
        cases h
      · rintro ⟨y, _, hy, _⟩
        cases hy
    | ok y =>
      cases hrest : rest.mapM f with
      | error e =>
        constructor
        · intro h
          cases h
        · rintro ⟨_, ys', _, hys', _⟩
          rw [ih.mpr hys'] at hrest
          cases hrest
      | ok rest' =>
        constructor
        · intro h
          cases h
          exact ⟨y, rest', rfl, ih.mp hrest, rfl⟩
        · rintro ⟨y', ys', hy', hys', rfl⟩
          cases hy'
          rw [ih.mpr hys'] at hrest
          cases hrest
          rfl

/-- The first element that fails decides the error. -/
theorem mapM_eq_error {number : Nat} {x : α} {e : ε} (hx : xs[number]? = some x) (hfails : f x = .error e)
    (hbefore : ∀ earlier < number, ∀ x, xs[earlier]? = some x → ∃ y, f x = .ok y) :
    xs.mapM f = .error e := by
  induction xs generalizing number with
  | nil => simp at hx
  | cons first rest ih =>
    rw [List.mapM_cons]
    cases number with
    | zero =>
      obtain rfl : first = x := by simpa using hx
      rw [hfails]
      rfl
    | succ number =>
      obtain ⟨y, hy⟩ := hbefore 0 (by omega) first rfl
      have hrest : rest.mapM f = .error e := by
        refine ih (by simpa using hx) fun earlier hlt x hx => ?_
        exact hbefore (earlier + 1) (by omega) x (by simpa using hx)
      rw [hy, hrest]
      rfl

/-- A pass that fails does so at the first element that cannot be passed. -/
theorem exists_of_mapM_eq_error {e : ε} (hfails : xs.mapM f = .error e) :
    ∃ (number : Nat) (x : α), xs[number]? = some x ∧ f x = .error e ∧
      ∀ earlier < number, ∀ x, xs[earlier]? = some x → ∃ y, f x = .ok y := by
  induction xs with
  | nil => cases hfails
  | cons first rest ih =>
    rw [List.mapM_cons] at hfails
    cases hfirst : f first with
    | error e' =>
      rw [hfirst] at hfails
      cases hfails
      exact ⟨0, first, rfl, hfirst, by simp⟩
    | ok y =>
      cases hrest : rest.mapM f with
      | ok ys =>
        rw [hfirst, hrest] at hfails
        cases hfails
      | error e' =>
        rw [hfirst, hrest] at hfails
        cases hfails
        obtain ⟨number, x, hx, hfx, hbefore⟩ := ih hrest
        refine ⟨number + 1, x, by simpa using hx, hfx, ?_⟩
        intro earlier hlt z hz
        cases earlier with
        | zero =>
          obtain rfl : first = z := by simpa using hz
          exact ⟨y, hfirst⟩
        | succ earlier => exact hbefore earlier (by omega) z (by simpa using hz)

/-- A pass succeeds if every element can be passed. -/
theorem exists_mapM_eq_ok (hall : ∀ x ∈ xs, ∃ y, f x = .ok y) : ∃ ys, xs.mapM f = .ok ys := by
  induction xs with
  | nil => exact ⟨[], rfl⟩
  | cons x rest ih =>
    obtain ⟨y, hy⟩ := hall x (by simp)
    obtain ⟨ys, hys⟩ := ih fun x hx => hall x (by simp [hx])
    exact ⟨y :: ys, by rw [List.mapM_cons, hy, hys]; rfl⟩

/-- A pass can be made on what the elements stand for, if each step can. -/
theorem map_mapM_eq_mapM_map {γ δ : Type} {g : β → γ} {view : α → δ} {f' : δ → Except ε γ}
    (hstep : ∀ x, (f x).map g = f' (view x)) : (xs.mapM f).map (List.map g) = (xs.map view).mapM f' := by
  induction xs with
  | nil => rfl
  | cons x rest ih =>
    rw [List.map_cons, List.mapM_cons, List.mapM_cons, ← hstep, ← ih]
    cases f x with
    | error e => rfl
    | ok y => cases rest.mapM f <;> rfl

/-- Elements that always pass may be left out of a pass, if what they pass as is left out of its
    result. -/
theorem mapM_filter_eq_map_filter {p : α → Bool} {q : β → Bool} (hsame : ∀ x y, f x = .ok y → q y = p x)
    (hpass : ∀ x, p x = false → ∃ y, f x = .ok y) : (xs.filter p).mapM f = (xs.mapM f).map (List.filter q) := by
  induction xs with
  | nil => rfl
  | cons x rest ih =>
    rw [List.mapM_cons, List.filter_cons]
    cases hx : f x with
    | error e =>
      cases hp : p x with
      | true =>
        rw [if_pos rfl, List.mapM_cons, hx]
        rfl
      | false =>
        obtain ⟨y, hy⟩ := hpass x hp
        rw [hx] at hy
        cases hy
    | ok y =>
      have hkept : ∀ ys, (y :: ys).filter q = if p x then y :: ys.filter q else ys.filter q := by
        intro ys
        rw [List.filter_cons, hsame x y hx]
      cases hp : p x with
      | true =>
        rw [if_pos rfl, List.mapM_cons, hx, ih]
        cases rest.mapM f with
        | error e => rfl
        | ok ys => exact congrArg Except.ok ((hkept ys).trans (if_pos hp)).symm
      | false =>
        rw [if_neg Bool.false_ne_true, ih]
        cases rest.mapM f with
        | error e => rfl
        | ok ys => exact congrArg Except.ok ((hkept ys).trans (if_neg (ne_true_of_eq_false hp))).symm

theorem exists_of_map_eq_ok {result : Except ε α} {g : α → β} {y : β} (hmap : result.map g = .ok y) :
    ∃ x, result = .ok x ∧ y = g x := by
  cases result with
  | error e => cases hmap
  | ok x => exact ⟨x, rfl, (Except.ok.inj hmap).symm⟩

theorem eq_error_of_map_eq_error {result : Except ε α} {g : α → β} {e : ε} (hmap : result.map g = .error e) :
    result = .error e := by
  cases result with
  | error e' => exact congrArg Except.error (Except.error.inj hmap)
  | ok x => cases hmap

/-- A pass of checks that succeeds has made every one of them. -/
theorem eq_ok_of_forM_eq_ok {check : α → Except ε Unit} (hall : xs.forM check = .ok ()) :
    ∀ x ∈ xs, check x = .ok () := by
  induction xs with
  | nil => simp
  | cons first rest ih =>
    rw [List.forM_eq_forM, List.forM_cons] at hall
    cases hfirst : check first with
    | error e =>
      rw [hfirst] at hall
      cases hall
    | ok =>
      rw [hfirst] at hall
      intro x hx
      rcases List.mem_cons.mp hx with rfl | hrest
      · exact hfirst
      · exact ih hall x hrest

theorem exists_of_mem_left {R : α → β → Prop} {items : List α} {results : List β} {item : α}
    (hall : List.Forall₂ R items results) (hitem : item ∈ items) : ∃ result, R item result := by
  induction hall with
  | nil => exact absurd hitem List.not_mem_nil
  | cons hfirst _ ih =>
    rcases List.mem_cons.mp hitem with rfl | hrest
    · exact ⟨_, hfirst⟩
    · exact ih hrest

theorem exists_mem_left_of_mem_right {R : α → β → Prop} {items : List α} {results : List β} {result : β}
    (hall : List.Forall₂ R items results) (hresult : result ∈ results) : ∃ item ∈ items, R item result := by
  induction hall with
  | nil => exact absurd hresult List.not_mem_nil
  | @cons item first items results hfirst _ ih =>
    rcases List.mem_cons.mp hresult with rfl | hrest
    · exact ⟨item, List.mem_cons_self, hfirst⟩
    · obtain ⟨other, hother, hrelated⟩ := ih hrest
      exact ⟨other, List.mem_cons_of_mem _ hother, hrelated⟩

/-- Two lists have the same image exactly when they correspond item by item. -/
theorem map_eq_map_iff_forall₂ {f : α → β} {S : α → α → Prop} {items items' : List α}
    (hsame : ∀ item ∈ items, ∀ item' ∈ items', f item = f item' ↔ S item item') :
    items.map f = items'.map f ↔ List.Forall₂ S items items' := by
  induction items generalizing items' with
  | nil => cases items' <;> simp
  | cons item rest ih =>
    cases items' with
    | nil => simp
    | cons item' rest' =>
      rw [List.map_cons, List.map_cons, List.cons.injEq, List.forall₂_cons,
        hsame item List.mem_cons_self item' List.mem_cons_self,
        ih fun item hitem item' hitem' =>
          hsame item (List.mem_cons_of_mem _ hitem) item' (List.mem_cons_of_mem _ hitem')]

theorem forall₂_filterMap_getElem? {order : List Nat} {items : List α}
    (hwithin : ∀ number ∈ order, number < items.length) :
    List.Forall₂ (fun number item => items[number]? = some item) order (order.filterMap (items[·]?)) := by
  induction order with
  | nil => exact .nil
  | cons number rest ih =>
    have hitem := List.getElem?_eq_getElem (hwithin number List.mem_cons_self)
    rw [List.filterMap_cons_some hitem]
    exact .cons hitem (ih fun number hnumber => hwithin number (List.mem_cons_of_mem _ hnumber))

theorem filterMap_range_getElem? (xs : List α) (count : Nat) :
    (List.range count).filterMap (xs[·]?) = xs.take count := by
  induction count with
  | zero => simp
  | succ count ih => cases h : xs[count]? <;> simp [List.range_succ, ih, List.take_add_one, h]

theorem mem_of_lookup [BEq α] [LawfulBEq α] {entries : List (α × β)} {key : α} {value : β}
    (hlookup : entries.lookup key = some value) : (key, value) ∈ entries := by
  obtain ⟨before, after, hsplit, _⟩ := List.lookup_eq_some_iff.mp hlookup
  simp [hsplit]

/-- The maximum of numbers reaches a bound exactly if one of them does. -/
theorem le_foldl_max_iff {n start : Nat} {numbers : List Nat} :
    n ≤ numbers.foldl max start ↔ n ≤ start ∨ ∃ number ∈ numbers, n ≤ number := by
  induction numbers generalizing start with
  | nil => simp
  | cons first rest ih =>
    have hmax : n ≤ max start first ↔ n ≤ start ∨ n ≤ first := by omega
    rw [List.foldl_cons, ih, hmax, or_assoc]
    simp only [List.mem_cons, exists_eq_or_imp]

end InstrDecl
