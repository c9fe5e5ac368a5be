import InstrDecl.Command.Usage
import InstrDecl.Proofs.Text.Split
import InstrDecl.Proofs.Traversal

namespace InstrDecl

/-- Bringing a path into normal form adds no character but dots and slashes. -/
theorem Path.hasNul_ofText {text : Text} (htext : Path.holdsNul text = false) : (Path.ofText text).hasNul = false := by
  have hnul : Char.ofNat 0 ∉ text := by simpa [Path.holdsNul] using htext
  have hanchor : ∀ anchor : Anchor, Char.ofNat 0 ∉ anchor.text := by
    intro anchor
    cases anchor <;> decide
  have hwritten : Char.ofNat 0 ∉ (Path.ofText text).anchor.text ++
      List.intercalate ['/'] (Path.ofText text).components := by
    intro hmem
    rcases List.mem_append.mp hmem with hfirst | hrest
    · exact hanchor _ hfirst
    · rcases Text.mem_of_mem_intercalate hrest with hslash | ⟨part, hpart, hmem⟩
      · exact absurd hslash (by decide)
      · have hname := (List.mem_filter.mp (List.mem_filter.mp hpart).1).1
        exact hnul (Text.mem_and_eq_false_of_mem_splitWhere hname _ hmem).1
  have hnormal : Char.ofNat 0 ∉ (Path.ofText text).text := by
    unfold Path.text
    dsimp only
    split
    · decide
    · exact hwritten
  simpa [Path.hasNul, Path.holdsNul] using hnormal

namespace Command

variable {files : FileSystem} {verb : Verb} {scan : Scan} {request : Request}

/-- A path with a null character is refused before anything is looked up. -/
theorem holdsNul_of_checkFile {label value : Text} (hcheck : checkFile files verb label value = .ok ()) :
    Path.holdsNul value = false := by
  unfold checkFile at hcheck
  split at hcheck
  · cases hcheck
  · next hnul => simpa using hnul

/-- Every option that was given has been checked, and so has the list. -/
theorem checks_of_checkScan (hcheck : checkScan files verb scan = .ok ()) :
    (∀ option value, scan.value? option = some value → checkOption files verb scan option = .ok ()) ∧
      ∀ list, scan.arguments.head? = some list → checkFile files verb listLabel list = .ok () := by
  unfold checkScan at hcheck
  cases hoptions : (scan.given.map (·.1)).eraseDups.forM (checkOption files verb scan) with
  | error e =>
    rw [hoptions] at hcheck
    cases hcheck
  | ok =>
    rw [hoptions] at hcheck
    constructor
    · intro option value hvalue
      obtain ⟨entry, hentry, _⟩ := Option.map_eq_some_iff.mp hvalue
      refine eq_ok_of_forM_eq_ok hoptions option ?_
      rw [List.mem_eraseDups, List.mem_map]
      exact ⟨entry, List.mem_reverse.mp (List.mem_of_find?_eq_some hentry), by simpa using List.find?_some hentry⟩
    · intro list hlist
      dsimp only [bind, Except.bind] at hcheck
      split at hcheck
      · next harguments =>
        rw [harguments] at hlist
        cases hlist
      · next harguments =>
        rw [harguments] at hlist
        cases hlist
        exact hcheck
      · next first extra _ harguments =>
        cases hfirst : checkFile files verb listLabel first with
        | error e =>
          rw [hfirst] at hcheck
          cases hcheck
        | ok =>
          rw [hfirst] at hcheck
          cases hcheck

/-- A request comes from a command whose arguments were told apart and checked. -/
theorem exists_scan_of_readLine {arguments : List Text} (hline : readLine files arguments = .ok (.run request)) :
    ∃ verb rest scan, Command.scan verb.options true rest = .ok scan ∧ checkScan files verb scan = .ok () ∧
      request = Request.ofScan verb scan := by
  have hglobal : ∀ arguments rest, readGlobal arguments ≠ .ok (some (.run request), rest) := by
    intro arguments rest hread
    unfold readGlobal at hread
    split at hread
    · cases hread
    · dsimp only at hread
      split at hread <;> cases hread
  unfold readLine at hline
  split at hline
  · cases hline
  · next demand rest hread =>
    cases hline
    exact absurd hread (hglobal arguments rest)
  · split at hline <;> cases hline
  · next name rest hread =>
    split at hline
    · next verb hverb =>
      unfold readCommand at hline
      split at hline
      · cases hline
      · next scan hscan =>
        split at hline
        · cases hline
        · split at hline
          · cases hline
          · next hcheck =>
            cases hline
            exact ⟨verb, rest, scan, hscan, hcheck, rfl⟩
    · split at hline
      · cases hline
      · next demand rest' hread' =>
        cases hline
        exact absurd hread' (hglobal (name :: rest) rest')
      · cases hline

/-- The paths of an accepted request hold no character that no file name can hold. -/
theorem hasNul_of_readLine {arguments : List Text} (hline : readLine files arguments = .ok (.run request)) :
    (∀ path, request.list = some path → path.hasNul = false) ∧
      ∀ path, request.output = some path → path.hasNul = false := by
  obtain ⟨verb, _, scan, _, hcheck, rfl⟩ := exists_scan_of_readLine hline
  obtain ⟨hoptions, hfile⟩ := checks_of_checkScan hcheck
  constructor
  · intro path hpath
    obtain ⟨list, hlist, rfl⟩ := Option.map_eq_some_iff.mp hpath
    exact Path.hasNul_ofText (holdsNul_of_checkFile (hfile list hlist))
  · intro path hpath
    obtain ⟨value, hvalue, rfl⟩ := Option.map_eq_some_iff.mp hpath
    have hoption := hoptions .output value hvalue
    unfold checkOption at hoption
    rw [hvalue] at hoption
    exact Path.hasNul_ofText (holdsNul_of_checkFile hoption)

variable {options : List Opt}

/-- The options in an argument are among those that there are. -/
def Word.Within (options : List Opt) (word : Word) : Prop :=
  (∀ entry ∈ word.given, entry.1 ∈ options) ∧ ∀ entry, word.pending = some entry → entry.1 ∈ options

/-- One argument can hold several options of one letter; all of them are options that there are. -/
theorem within_of_readShort {text : Text} {word : Word} (hread : readShort options text = .ok word) :
    word.Within options := by
  induction text generalizing word with
  | nil =>
    cases hread
    exact ⟨by simp, by simp⟩
  | cons letter rest ih =>
    rw [readShort] at hread
    split at hread
    · cases hread
    · next option hfind =>
      have hmem := List.mem_of_find?_eq_some hfind
      split at hread
      · split at hread <;> cases hread <;> exact ⟨by simp [hmem], by simp [hmem]⟩
      · obtain ⟨word, hrest, rfl⟩ := exists_of_map_eq_ok hread
        obtain ⟨hgiven, hpending⟩ := ih hrest
        exact ⟨List.forall_mem_cons.mpr ⟨hmem, hgiven⟩, hpending⟩

theorem within_of_readWord {argument : Text} {word : Word} (hread : readWord options argument = .ok word) :
    word.Within options := by
  unfold readWord at hread
  dsimp only at hread
  split at hread
  · next option hfind =>
    have hmem := List.mem_of_find?_eq_some hfind
    split at hread <;> cases hread <;> exact ⟨by simp [hmem], by simp [hmem]⟩
  · split at hread
    · cases hread
    · exact within_of_readShort hread

/-- What was given on a command line are options of the command. -/
theorem mem_of_scan {mixed : Bool} {arguments : List Text} (hscan : Command.scan options mixed arguments = .ok scan) :
    ∀ entry ∈ scan.given, entry.1 ∈ options := by
  fun_induction Command.scan options mixed arguments generalizing scan with
  | case1 | case2 | case8 =>
    cases hscan
    simp
  | case3 | case5 => cases hscan
  | case4 argument rest _ _ given hword ih =>
    obtain ⟨others, hrest, rfl⟩ := exists_of_map_eq_ok hscan
    exact List.forall_mem_append.mpr ⟨(within_of_readWord hword).1, ih hrest⟩
  | case6 argument _ _ given option name hword value rest ih =>
    obtain ⟨others, hrest, rfl⟩ := exists_of_map_eq_ok hscan
    obtain ⟨hgiven, hpending⟩ := within_of_readWord hword
    refine List.forall_mem_append.mpr ⟨List.forall_mem_append.mpr ⟨hgiven, ?_⟩, ih hrest⟩
    simpa using hpending (option, name) rfl
  | case7 argument rest _ _ _ ih =>
    obtain ⟨others, hrest, rfl⟩ := exists_of_map_eq_ok hscan
    have hgiven := ih hrest
    exact hgiven

/-- A request has no output file if its command has no option for one. -/
theorem output_eq_none_of_readLine {arguments : List Text} (hline : readLine files arguments = .ok (.run request))
    (hoption : Opt.output ∉ request.verb.options) : request.output = none := by
  obtain ⟨verb, rest, scan, hscan, _, rfl⟩ := exists_scan_of_readLine hline
  have hnone : scan.given.reverse.find? (·.1 == Opt.output) = none := by
    rw [List.find?_eq_none]
    intro entry hentry hsame
    have hmem := mem_of_scan hscan entry (List.mem_reverse.mp hentry)
    rw [eq_of_beq hsame] at hmem
    exact hoption hmem
  simp only [Request.ofScan, Scan.value?, hnone, Option.map_none]

end Command

end InstrDecl
