import InstrDecl.Storage.FileSystem

namespace InstrDecl.FileSystem

attribute [ext] FileSystem

variable {entries : List (Location × Entry)} {location other : Location} {entry : Entry}

/-- To replace an entry changes what is found at its place, and only if something was found there. -/
theorem lookup_replace :
    (entries.map fun e => if e.1 == location then (location, entry) else e).lookup other =
      if other = location then (entries.lookup location).map fun _ => entry else entries.lookup other := by
  induction entries with
  | nil => simp
  | cons e rest ih =>
    obtain ⟨place, old⟩ := e
    rw [List.map_cons]
    by_cases hplace : place = location
    · subst hplace
      rw [if_pos (beq_self_eq_true place), List.lookup_cons, ih, List.lookup_cons_self, List.lookup_cons]
      by_cases hother : other = place
      · simp [hother]
      · simp [hother, beq_eq_false_iff_ne.mpr hother]
    · rw [if_neg (mt beq_iff_eq.mp hplace), List.lookup_cons, ih, List.lookup_cons, List.lookup_cons]
      by_cases hother : other = location
      · subst hother
        simp [beq_eq_false_iff_ne.mpr (Ne.symm hplace)]
      · simp [hother]

/-- To drop places changes nothing at the others. -/
theorem lookup_filter_place (p : Location → Bool) :
    (entries.filter (p ·.1)).lookup other = if p other = true then entries.lookup other else none := by
  induction entries with
  | nil => simp
  | cons e rest ih =>
    obtain ⟨place, old⟩ := e
    by_cases hother : other = place
    · subst hother
      by_cases hkept : p other = true <;> simp [hkept, ih]
    · have hbeq : (other == place) = false := beq_eq_false_iff_ne.mpr hother
      by_cases hkept : p place = true <;> simp [hkept, List.lookup_cons, hbeq, ih]

/-- A place that is not the root holds what is put there, and no other place changes. -/
theorem entryAt_put (fs : FileSystem) (hplace : location ≠ []) :
    FileSystem.entryAt (fs.put location entry) other = if other = location then some entry else fs.entryAt other := by
  have hroot : location.isEmpty = false := by simpa using hplace
  unfold put
  split
  · next hfound =>
    obtain ⟨old, hold⟩ := Option.isSome_iff_exists.mp hfound
    rw [entryAt, entryAt, lookup_replace]
    by_cases hother : other = location
    · subst hother
      simp [hroot, hold]
    · simp [hother]
  · next habsent =>
    rw [Option.not_isSome_iff_eq_none] at habsent
    rw [entryAt, entryAt, List.lookup_append]
    by_cases hother : other = location
    · subst hother
      simp [hroot, habsent]
    · simp [hother, List.lookup_cons, beq_eq_false_iff_ne.mpr hother]

/-- A selection of entries by their places does not see a change at a place that it leaves out. -/
theorem filter_put (fs : FileSystem) {p : Location → Bool} (hplace : p location = false) :
    (fs.put location entry).entries.filter (p ·.1) = fs.entries.filter (p ·.1) := by
  unfold put
  split
  · dsimp only
    induction fs.entries with
    | nil => rfl
    | cons e rest ih =>
      obtain ⟨place, old⟩ := e
      rw [List.map_cons]
      by_cases hsame : place = location
      · subst hsame
        rw [if_pos (beq_self_eq_true place), List.filter_cons_of_neg (by simp [hplace]), ih,
          List.filter_cons_of_neg (by simp [hplace])]
      · rw [if_neg (mt beq_iff_eq.mp hsame), List.filter_cons, ih, List.filter_cons]
  · simp [hplace]

theorem put_current (fs : FileSystem) : (fs.put location entry).current = fs.current := by
  unfold put
  split <;> rfl

/-- A place is not `tree` and does not lie below it. -/
def outside (tree place : Location) : Bool :=
  !tree.isPrefixOf place

theorem outside_eq_true {tree place : Location} : outside tree place = true ↔ ¬ tree <+: place := by
  rw [outside, Bool.not_eq_true', ← Bool.not_eq_true, List.isPrefixOf_iff_prefix]

theorem outside_eq_false {tree place : Location} : outside tree place = false ↔ tree <+: place := by
  rw [outside, Bool.not_eq_false', List.isPrefixOf_iff_prefix]

/-- Two file systems differ at most in the tree at a place. -/
structure SameOutside (tree : Location) (fs fs' : FileSystem) : Prop where
  entries : fs.entries.filter (outside tree ·.1) = fs'.entries.filter (outside tree ·.1)
  current : fs.current = fs'.current

namespace SameOutside

variable {tree : Location} {fs fs' fs'' : FileSystem}

theorem refl (tree : Location) (fs : FileSystem) : SameOutside tree fs fs :=
  ⟨rfl, rfl⟩

theorem trans (h : SameOutside tree fs fs') (h' : SameOutside tree fs' fs'') : SameOutside tree fs fs'' :=
  ⟨h.entries.trans h'.entries, h.current.trans h'.current⟩

/-- An entry below a directory is put there without effect on what is outside. -/
theorem of_put (fs : FileSystem) (hbelow : tree <+: location) : SameOutside tree (fs.put location entry) fs :=
  ⟨filter_put fs (outside_eq_false.mpr hbelow), put_current fs⟩

theorem of_removeTree (tree : Location) (fs : FileSystem) : SameOutside tree (fs.removeTree tree) fs :=
  ⟨by simp [removeTree, outside, List.filter_filter], rfl⟩

/-- What is the same outside of a directory can be found there at the same places. -/
theorem entryAt_eq (h : SameOutside tree fs fs') (houtside : ¬ tree <+: other) :
    fs.entryAt other = fs'.entryAt other := by
  have hlookup := congrArg (List.lookup other) h.entries
  rw [lookup_filter_place, lookup_filter_place, if_pos (outside_eq_true.mpr houtside),
    if_pos (outside_eq_true.mpr houtside)] at hlookup
  rw [entryAt, entryAt, hlookup]

/-- A selection of entries that leaves out the tree sees no difference. -/
theorem filter_eq (h : SameOutside tree fs fs') {p : Location → Bool}
    (htree : ∀ place, tree <+: place → p place = false) :
    fs.entries.filter (p ·.1) = fs'.entries.filter (p ·.1) := by
  have hboth : ∀ place, (p place && outside tree place) = p place := by
    intro place
    by_cases hbelow : tree <+: place
    · rw [htree place hbelow, Bool.false_and]
    · rw [outside_eq_true.mpr hbelow, Bool.and_true]
  have hfilter := congrArg (List.filter (p ·.1)) h.entries
  simpa only [List.filter_filter, hboth] using hfilter

end SameOutside

end InstrDecl.FileSystem
