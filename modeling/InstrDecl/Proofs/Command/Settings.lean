import InstrDecl.Proofs.Command.Request
import InstrDecl.Proofs.Text.Integer
import InstrDecl.Settings

namespace InstrDecl

namespace Command

/-- A number of jobs on a command line is a positive one. -/
theorem one_le_of_readJobs {value : Text} {jobs : Int} (hread : readJobs value = .ok jobs) : 1 ≤ jobs := by
  unfold readJobs at hread
  split at hread
  · cases hread
  · split at hread
    · cases hread
    · next hpositive =>
      cases hread
      omega

/-- A request that was accepted asks for at least one job, if it says how many. -/
theorem one_le_jobs_of_readLine {files : FileSystem} {arguments : List Text} {request : Request}
    (hline : readLine files arguments = .ok (.run request)) : ∀ jobs, request.jobs = some jobs → 1 ≤ jobs := by
  obtain ⟨verb, _, scan, _, _, rfl⟩ := exists_scan_of_readLine hline
  intro jobs hjobs
  obtain ⟨value, _, hread⟩ := Option.bind_eq_some_iff.mp hjobs
  cases hresult : readJobs value with
  | error fault =>
    rw [hresult] at hread
    cases hread
  | ok read =>
    rw [hresult] at hread
    cases hread
    exact one_le_of_readJobs hresult

end Command

namespace Settings

variable {environment : Environment} {assembler : Option Text} {jobs : Option Int} {text : Text} {n : Int}

/-- A variable that is set to nothing counts as one that is not set. -/
theorem value?_eq_some_iff {name : Text} :
    value? environment name = some text ↔ environment.lookup name = some text ∧ text ≠ [] := by
  rw [value?, Option.filter_eq_some_iff]
  simp

theorem find?_toList_append {candidate : Option Text} {others : List Text} :
    (candidate.toList ++ others).find? (!·.isEmpty) =
      ((candidate.filter (!·.isEmpty)).or (others.find? (!·.isEmpty))) := by
  cases candidate with
  | none => rfl
  | some text => cases text <;> rfl

/-- The assembler is the first that is named on the command line, in the environment, or by default. -/
theorem find?_executable (environment : Environment) (assembler : Option Text) (jobs : Option Int) :
    (assembler.toList ++ ((environment.lookup assemblerVariable).toList ++ [Tool.default.executable])).find?
      (!·.isEmpty) = some (resolve environment assembler jobs).1.tool.executable := by
  have hdefault : [Tool.default.executable].find? (!·.isEmpty) = some Tool.default.executable := by decide
  have hresolve : (resolve environment assembler jobs).1.tool.executable =
      (assembler.filter (!·.isEmpty)).getD ((value? environment assemblerVariable).getD Tool.default.executable) := rfl
  rw [find?_toList_append, find?_toList_append, hdefault, hresolve, value?]
  cases assembler.filter (!·.isEmpty) <;> cases (environment.lookup assemblerVariable).filter (!·.isEmpty) <;> rfl

theorem environmentJobs_of_absent (habsent : ∀ text, environment.lookup jobsVariable = some text → text = []) :
    environmentJobs environment = (1, []) := by
  have hnone : value? environment jobsVariable = none := by
    rw [Option.eq_none_iff_forall_ne_some]
    intro text hvalue
    obtain ⟨hlookup, hne⟩ := value?_eq_some_iff.mp hvalue
    exact hne (habsent text hlookup)
  rw [environmentJobs, hnone]
  rfl

/-- A text for an integer is taken for it, and at least one job is made of it. -/
theorem environmentJobs_of_denotes (hlookup : environment.lookup jobsVariable = some text) (hdenotes : text.Denotes n) :
    environmentJobs environment = (max 1 n, []) := by
  have hinteger := Text.integer?_eq_some_iff.mpr hdenotes
  have hne : text ≠ [] := by
    rintro rfl
    cases hinteger
  rw [environmentJobs, value?_eq_some_iff.mpr ⟨hlookup, hne⟩]
  simp only [hinteger]

/-- A text for no integer is warned of, and then it is as if there were none. -/
theorem environmentJobs_of_refused (hlookup : environment.lookup jobsVariable = some text) (hne : text ≠ [])
    (hrefused : ∀ n, ¬ text.Denotes n) : environmentJobs environment = (1, [.invalidJobs text]) := by
  rw [environmentJobs, value?_eq_some_iff.mpr ⟨hlookup, hne⟩]
  simp only [Text.integer?_eq_none_iff.mpr hrefused]
  rfl

theorem one_le_environmentJobs (environment : Environment) : 1 ≤ (environmentJobs environment).1 := by
  unfold environmentJobs
  split
  · exact Int.le_refl 1
  · split
    · exact le_max_left 1 _
    · exact Int.le_refl 1

/-- A run can always use its settings: they name an assembler and give at least one job, also to every
    request that a command line makes. What the command line says wins over the environment, and the
    environment over the defaults; an empty text says nothing. Without a number on the command line, a
    text in the environment that denotes an integer gives that many jobs, or one if it is not positive,
    and any other text gives one job. Only of such a text there is a warning, and no other. The integers
    that a text can denote are those of at most 4300 digits. -/
theorem settings_always_usable (environment : Environment) (assembler : Option Text) (jobs : Option Int)
    (hjobs : ∀ n, jobs = some n → 1 ≤ n) :
    let settings := (resolve environment assembler jobs).1
    let notices := (resolve environment assembler jobs).2
    settings.tool.executable ≠ [] ∧ 1 ≤ settings.jobs ∧
    (assembler.toList ++ ((environment.lookup assemblerVariable).toList ++ [("nasm" : Text)])).find? (!·.isEmpty) =
      some settings.tool.executable ∧
    (∀ n, jobs = some n → settings.jobs = n) ∧
    ((∀ text, environment.lookup jobsVariable = some text → text = []) →
      notices = [] ∧ (jobs = none → settings.jobs = 1)) ∧
    (∀ text n, environment.lookup jobsVariable = some text → text.Denotes n →
      notices = [] ∧ (jobs = none → settings.jobs = max 1 n)) ∧
    (∀ text, environment.lookup jobsVariable = some text → text ≠ [] → (∀ n, ¬ text.Denotes n) →
      notices = [.invalidJobs text] ∧ (Notice.invalidJobs text).level = .warning ∧
        (jobs = none → settings.jobs = 1)) ∧
    (∀ n, (∃ text, Text.Denotes text n) ↔ (Text.ofNat n.natAbs).length ≤ 4300) ∧
    ∀ files arguments request, Command.readLine files arguments = .ok (.run request) →
      ∀ n, request.jobs = some n → 1 ≤ n := by
  intro settings notices
  have hexecutable := find?_executable environment assembler jobs
  have hnotices : notices = (environmentJobs environment).2 := rfl
  have hgiven : settings.jobs = jobs.getD (environmentJobs environment).1 := rfl
  have hdefault : ∀ {count : Int}, (environmentJobs environment).1 = count → jobs = none → settings.jobs = count := by
    rintro count hcount rfl
    rw [hgiven, hcount, Option.getD_none]
  refine ⟨?_, ?_, hexecutable, ?_, ?_, ?_, ?_, fun n => Text.exists_denotes_iff,
    fun files arguments request => Command.one_le_jobs_of_readLine⟩
  · have hnonempty := List.find?_some hexecutable
    simpa using hnonempty
  · rw [hgiven]
    cases jobs with
    | none => exact one_le_environmentJobs environment
    | some n => exact hjobs n rfl
  · rintro n rfl
    rfl
  · intro habsent
    have hresult := environmentJobs_of_absent habsent
    exact ⟨by rw [hnotices, hresult], hdefault (by rw [hresult])⟩
  · intro text n hlookup hdenotes
    have hresult := environmentJobs_of_denotes hlookup hdenotes
    exact ⟨by rw [hnotices, hresult], hdefault (by rw [hresult])⟩
  · intro text hlookup hne hrefused
    have hresult := environmentJobs_of_refused hlookup hne hrefused
    exact ⟨by rw [hnotices, hresult], rfl, hdefault (by rw [hresult])⟩

/-- Digits of another script, a leading zero and an underscore are read; the mark of another base is not. -/
theorem settings_always_usable_digits :
    let read : Environment := [(jobsVariable, "\u2003+\u06601_2\n")]
    let refused : Environment := [(assemblerVariable, "yasm"), (jobsVariable, "0x2")]
    (∀ n, (some 3 : Option Int) = some n → 1 ≤ n) ∧ (resolve refused (some []) (some 3)).1.jobs = 3 ∧
      (resolve refused (some []) (some 3)).1.tool.executable = ("yasm" : Text) ∧
    Text.Denotes "\u2003+\u06601_2\n" 12 ∧ (resolve read none none).1.jobs = 12 ∧ (resolve read none none).2 = [] ∧
    (∀ n, ¬ Text.Denotes "0x2" n) ∧ (resolve refused none none).1.jobs = 1 ∧
      (resolve refused none none).2 = [.invalidJobs "0x2"] := by
  intro read refused
  have hthree : ∀ n, (some 3 : Option Int) = some n → 1 ≤ n := by
    intro n hn
    cases hn
    decide
  have hnone : ∀ n, (none : Option Int) = some n → 1 ≤ n := by
    intro n hn
    cases hn
  have hdenotes : Text.Denotes "\u2003+\u06601_2\n" 12 := Text.integer?_eq_some_iff.mp (by decide)
  have hrefused : ∀ n, ¬ Text.Denotes "0x2" n := Text.integer?_eq_none_iff.mp (by decide)
  obtain ⟨_, _, hexecutable, hgiven, _⟩ := settings_always_usable refused (some []) (some 3) hthree
  obtain ⟨_, _, _, _, _, hread, _⟩ := settings_always_usable read none none hnone
  obtain ⟨_, _, _, _, _, _, hwarned, _⟩ := settings_always_usable refused none none hnone
  obtain ⟨hquiet, htwelve⟩ := hread _ 12 rfl hdenotes
  obtain ⟨hwarning, _, hone⟩ := hwarned "0x2" rfl (by decide) hrefused
  exact ⟨hthree, hgiven 3 rfl, (Option.some.inj hexecutable).symm, hdenotes, htwelve rfl, hquiet, hrefused, hone rfl,
    hwarning⟩

end Settings

end InstrDecl
