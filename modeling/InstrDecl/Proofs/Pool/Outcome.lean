import InstrDecl.Proofs.Traversal

namespace InstrDecl

variable {α ε β : Type} {R : α → Except ε β → Prop} {items : List α}

/-- The items numbered in `order` were worked on, each once, and `outcome` is what became of the
    list. `R` says what an item may come to. With an error, only the items up to the one that
    failed are sure to have been worked on. -/
structure Settles (R : α → Except ε β → Prop) (items : List α) (order : List Nat)
    (outcome : Except ε (List β)) : Prop where
  once : order.Nodup
  within : ∀ number ∈ order, number < items.length
  ends : match outcome with
    | .ok results =>
      List.Forall₂ (fun item result => R item (.ok result)) items results ∧
        order.Perm (List.range items.length)
    | .error error =>
      ∃ number item, items[number]? = some item ∧ R item (.error error) ∧
        (∀ earlier < number, ∃ item result, items[earlier]? = some item ∧ R item (.ok result)) ∧
        ∀ earlier ≤ number, earlier ∈ order

/-- An item that fails cannot succeed, so the first failure leaves no other outcome. -/
theorem Settles.not_ok_of_error {order order' : List Nat} {error : ε} {results : List β}
    (hunique : ∀ item first second, R item first → R item second → first = second)
    (herror : Settles R items order (.error error)) : ¬ Settles R items order' (.ok results) := by
  intro hok
  obtain ⟨number, item, hitem, hfails, _⟩ := herror.ends
  obtain ⟨result, hresult⟩ := exists_of_mem_left hok.ends.1 (List.mem_of_getElem? hitem)
  cases hunique item _ _ hfails hresult

/-- If items come to one result each, then only one error can be the first. -/
theorem Settles.error_unique {order order' : List Nat} {error error' : ε}
    (hunique : ∀ item first second, R item first → R item second → first = second)
    (hfirst : Settles R items order (.error error)) (hsecond : Settles R items order' (.error error')) :
    error = error' := by
  obtain ⟨number, item, hitem, hfails, hbefore, _⟩ := hfirst.ends
  obtain ⟨number', item', hitem', hfails', hbefore', _⟩ := hsecond.ends
  -- The item that fails first in one account succeeds in the other if it comes before the failure there.
  rcases Nat.lt_trichotomy number number' with hlt | heq | hgt
  · obtain ⟨item₁, result, hitem₁, hresult⟩ := hbefore' number hlt
    obtain rfl : item = item₁ := Option.some.inj (hitem.symm.trans hitem₁)
    cases hunique item _ _ hfails hresult
  · subst heq
    obtain rfl : item = item' := Option.some.inj (hitem.symm.trans hitem')
    cases hunique item _ _ hfails hfails'
    rfl
  · obtain ⟨item₁, result, hitem₁, hresult⟩ := hbefore number' hgt
    obtain rfl : item' = item₁ := Option.some.inj (hitem'.symm.trans hitem₁)
    cases hunique item' _ _ hfails' hresult

theorem Settles.ok_unique {order order' : List Nat} {results results' : List β}
    (hunique : ∀ item first second, R item first → R item second → first = second)
    (hfirst : Settles R items order (.ok results)) (hsecond : Settles R items order' (.ok results')) :
    results = results' := by
  have hall := hfirst.ends.1
  have hall' := hsecond.ends.1
  clear hfirst hsecond
  induction hall generalizing results' with
  | nil =>
    cases hall'
    rfl
  | cons hresult _ ih =>
    cases hall' with
    | cons hresult' hrest' =>
      cases hunique _ _ _ hresult hresult'
      rw [ih hrest']

/-- Where every item can come to one thing only, so can the list, in whatever order its items are
    worked on. -/
theorem Settles.unique {order order' : List Nat} {outcome outcome' : Except ε (List β)}
    (hunique : ∀ item first second, R item first → R item second → first = second)
    (hfirst : Settles R items order outcome) (hsecond : Settles R items order' outcome') :
    outcome = outcome' := by
  cases outcome with
  | error error =>
    cases outcome' with
    | error error' => rw [hfirst.error_unique hunique hsecond]
    | ok results' => exact absurd hsecond (hfirst.not_ok_of_error hunique)
  | ok results =>
    cases outcome' with
    | error error' => exact absurd hfirst (hsecond.not_ok_of_error hunique)
    | ok results' => rw [hfirst.ok_unique hunique hsecond]

end InstrDecl
