/-
Every program that is found can be run.

The file name of a program ends in a full stop and its language, and the language is one of the extensions that were
looked for (`at?_declared`). A doc file is parsed with the extensions of the registry, and those are just the texts that
the registry has a strategy for (`Table.mem_keys_iff`). So no program of a doc file is in an unsupported language, and
running a doc file, a package or the command never ends that way (`parsed_programs_have_strategies`).
-/
import RunnableDocs.Proofs.Failing
import RunnableDocs.Proofs.ParseFault

namespace RunnableDocs

open RunnableDocs.Action (FailsOnly)
open RunDirectory (Provider)

/-! ## The language of a program -/

theorem Declaration.extension_of_ofText? {extensions : List Text} {text : Text} {d : Declaration}
    (h : ofText? extensions text = some d) :
    d.extension ∈ extensions ∧ ∃ word, d.filename = word ++ '.' :: d.extension := by
  obtain ⟨word, rest, -, -, -, hlongest, hfile⟩ := ofText?_eq_some_iff.1 h
  exact ⟨(longestAt?_eq_some_iff.1 hlongest).1, word, hfile⟩

namespace Program

/-- the file name of a program is the one declared before it, and its language the extension of that -/
theorem at?_declared {extensions : List Text} {ps : List Paragraph} {i : ℕ} {p : Program}
    (h : at? extensions ps i = some p) :
    ∃ text d, Declaration.ofText? extensions text = some d ∧ p.filename = d.filename ∧ p.language = d.extension := by
  cases i with
  | zero => cases h
  | succ i =>
    simp only [at?] at h
    split at h
    · rename_i before code _ _
      split_ifs at h
      obtain ⟨d, hd, rfl⟩ := Option.map_eq_some_iff.1 h
      exact ⟨before.text, d, hd, rfl, rfl⟩
    · cases h

theorem declared_of_ofParagraphs {extensions : List Text} {ps : List Paragraph} {programs : List Program}
    (h : ofParagraphs extensions ps = .ok programs) {p : Program} (hp : p ∈ programs) :
    ∃ text d, Declaration.ofText? extensions text = some d ∧ p.filename = d.filename ∧ p.language = d.extension := by
  cases ps with
  | nil =>
    obtain rfl := Except.ok.inj h
    cases hp
  | cons q qs =>
    rw [ofParagraphs_cons] at h
    split_ifs at h
    obtain rfl := Except.ok.inj h
    rw [after_eq_atPlaces] at hp
    obtain ⟨i, -, hi⟩ := List.mem_filterMap.1 hp
    exact at?_declared hi

theorem declared_of_ofSource {markers : Markers} {extensions : List Text} {source : Text} {programs : List Program}
    (h : ofSource markers extensions source = .ok programs) {p : Program} (hp : p ∈ programs) :
    ∃ text d, Declaration.ofText? extensions text = some d ∧ p.filename = d.filename ∧ p.language = d.extension := by
  obtain ⟨c, -, hprograms⟩ := ofSource_eq_ok_iff.1 h
  exact declared_of_ofParagraphs hprograms hp

theorem language_of_ofSource {markers : Markers} {extensions : List Text} {source : Text} {programs : List Program}
    (h : ofSource markers extensions source = .ok programs) {p : Program} (hp : p ∈ programs) :
    p.language ∈ extensions ∧ ∃ word, p.filename = word ++ '.' :: p.language := by
  obtain ⟨text, d, hd, hfile, hlanguage⟩ := declared_of_ofSource h hp
  rw [hfile, hlanguage]
  exact Declaration.extension_of_ofText? hd

end Program

/-- the programs that a doc file is parsed to are those of the source that it holds -/
theorem DocFile.source_of_parse {docFile : Path} {markers : Markers} {registry : Registry} {w : World}
    {programs : List Program} (h : (parse docFile markers registry w).result = .ok programs) :
    ∃ source, Program.ofSource markers registry.extensions source = .ok programs := by
  rw [parse_eq] at h
  split at h
  · cases h
  · rename_i source _
    split at h
    · cases h
    · rename_i found hfound
      obtain rfl := Except.ok.inj h
      exact ⟨source, hfound⟩

/-! ## Failures of other kinds -/

/-- the cause is another than that the language of a program is not known -/
def Cause.KnowsLanguage (c : Cause) : Prop := c.kind? ≠ some .unsupportedLanguage

theorem Cause.exitCode_eq_three_iff {c : Cause} : c.exitCode = 3 ↔ c.kind? = some .unsupportedLanguage := by
  unfold exitCode
  cases c.kind? with
  | none => decide
  | some kind => cases kind <;> decide

theorem Strategy.knowsLanguage_of_raises {c : Cause} (h : Raises c) : c.KnowsLanguage := by
  cases c <;> simp_all [Raises, Cause.KnowsLanguage, Cause.kind?]

theorem Locate.knowsLanguage_of_raises {c : Cause} (h : Raises c) : c.KnowsLanguage := by
  cases c <;> simp_all [Raises, Cause.KnowsLanguage, Cause.kind?]

theorem Config.knowsLanguage_of_raises {c : Cause} (h : Raises c) : c.KnowsLanguage := by
  cases c <;> simp_all [Raises, Cause.KnowsLanguage, Cause.kind?]

namespace Registry

/-- no strategy that a caller has supplied says of itself that it does not know a language -/
def SuppliedKnow (r : Registry) : Prop :=
  ∀ extension behaviour, r.get? extension = some (.supplied behaviour) →
    ∀ p s, (behaviour p s).FailsOnly Cause.KnowsLanguage

theorem SuppliedKnow.register {r : Registry} (hr : r.SuppliedKnow) (extension : Text) {strategy : Strategy}
    (hs : ∀ behaviour, strategy = .supplied behaviour → ∀ p s, (behaviour p s).FailsOnly Cause.KnowsLanguage) :
    (r.register extension strategy).SuppliedKnow := by
  intro key behaviour hget
  rw [get?_register] at hget
  split_ifs at hget with hk
  · exact hs behaviour (Option.some.inj hget)
  · exact hr key behaviour hget

theorem suppliedKnow_empty : empty.SuppliedKnow :=
  fun _ _ h => absurd h (by simp [empty, Table.get?, Table.valueIn])

theorem suppliedKnow_ofConfig (config : Config) : (ofConfig config).SuppliedKnow :=
  fun extension behaviour h => absurd h (get?_ofConfig_ne_supplied config extension behaviour)

end Registry

/-! ## Running what was found -/

theorem Cause.knowsLanguage_system (e : SystemError) : (Cause.system e).KnowsLanguage := by
  simp [KnowsLanguage, kind?]

/-- a source that is refused cannot be parsed, and nothing else -/
theorem Program.kind?_of_ofSource {markers : Markers} {extensions : List Text} {source : Text} {c : Cause}
    (h : ofSource markers extensions source = .error c) : c.kind? = some .parse := by
  rcases ofSource_eq_error_cases.1 h with hnone | ⟨comment, -, hps⟩
  · rcases Comment.ofLines_eq_error_iff.1 hnone with ⟨-, rfl⟩ | ⟨opened, tail, -, -, rfl⟩
    · rfl
    · rfl
  · obtain ⟨gap, line, rest, -, -, -, -, rfl⟩ := ofParagraphs_blocks_eq_error_iff.1 hps
    rfl

namespace DocFile

/-- the causes that a doc file is not read for -/
def Raises (c : Cause) : Prop := (∃ e, c = .system e) ∨ c.kind? = some .parse

theorem failsOnly_parse (docFile : Path) (markers : Markers) (registry : Registry) :
    (parse docFile markers registry).FailsOnly Raises := by
  intro w f hf
  rw [parse_eq] at hf
  split at hf
  · obtain rfl := Except.error.inj hf
    exact Or.inl ⟨_, rfl⟩
  · split at hf
    · rename_i c hc
      obtain rfl := Except.error.inj hf
      exact Or.inr (Program.kind?_of_ofSource hc)
    · cases hf

theorem knowsLanguage_of_raises {c : Cause} (h : Raises c) : c.KnowsLanguage := by
  rcases h with ⟨e, rfl⟩ | h
  · exact Cause.knowsLanguage_system e
  · simp [Cause.KnowsLanguage, h]

/-- a doc file that is read and run fails for what reading it, the system, the strategies of the registry and the output
of programs fail for, and for nothing else -/
theorem failsOnly_run_of {P : Cause → Prop} {launch : Launcher} {registry : Registry} (hread : ∀ c, Raises c → P c)
    (hmismatch : ∀ f e a, P (.outputMismatch f e a))
    (hstrategy : ∀ extension strategy, registry.get? extension = some strategy →
      ∀ p s, (strategy.execute launch p s).FailsOnly P)
    (docFile : Path) (dir : Option Path) (config : Config) (temporary : Provider) :
    (run launch docFile dir config registry temporary).FailsOnly P := by
  refine ((failsOnly_parse docFile _ registry).mono hread).bind fun w programs hparse => ?_
  refine (Action.failsOnly_report _).bind fun _ _ _ => FailsOnly.bind ?_ fun _ _ _ => Action.failsOnly_pure _
  refine Batch.failsOnly_run (fun e => hread _ (Or.inl ⟨e, rfl⟩)) fun s p hp => ?_
  obtain ⟨source, hsource⟩ := source_of_parse hparse
  have hknown := (Table.mem_keys_iff registry p.language).1 (Program.language_of_ofSource hsource hp).1
  exact Batch.failsOnly_runProgram hmismatch hknown fun strategy hget => hstrategy p.language strategy hget p s

theorem failsOnly_run {registry : Registry} (h : registry.SuppliedKnow) (launch : Launcher) (docFile : Path)
    (dir : Option Path) (config : Config) (temporary : Provider) :
    (run launch docFile dir config registry temporary).FailsOnly Cause.KnowsLanguage := by
  refine failsOnly_run_of (fun _ => knowsLanguage_of_raises) (fun _ _ _ => by simp [Cause.KnowsLanguage, Cause.kind?])
    (fun extension strategy hget p s => ?_) docFile dir config temporary
  exact Strategy.failsOnly_execute (fun _ => Strategy.knowsLanguage_of_raises) strategy
    (fun behaviour hs => h extension behaviour (hs ▸ hget)) p s

end DocFile

theorem Package.failsOnly_run (launch : Launcher) (package : Text) (dir : Option Path) (config : Config)
    (temporary : Provider) : (Package.run launch package dir config temporary).FailsOnly Cause.KnowsLanguage := by
  have hfind := (Locate.failsOnly_findDocFile launch config.locate package).mono fun _ => Locate.knowsLanguage_of_raises
  refine (hfind.during _).bind fun _ docFile _ => ?_
  exact DocFile.failsOnly_run (Registry.suppliedKnow_ofConfig config) launch docFile dir config temporary

theorem CommandLine.failsOnly_runPackage (launch : Launcher) (package : Text) (dir config : Option Path)
    (temporary : Provider) : (runPackage launch package dir config temporary).FailsOnly Cause.KnowsLanguage := by
  have hload := (failsOnly_loadConfig config).mono fun _ => Config.knowsLanguage_of_raises
  exact hload.bind fun _ config _ => Package.failsOnly_run launch package dir config temporary

/-- **Parsed programs have strategies.** Whatever has been registered and under whatever texts, each program of a doc
file has a file name that ends in a full stop and its language, and the registry has a strategy for that language. So
a run of a doc file does not fail for an unsupported language, unless a strategy that a caller has supplied says so of
itself; a run of a package never does, nor does the command end with the exit code of that. -/
theorem parsed_programs_have_strategies (launch : Launcher) (registry : Registry) :
    (∀ docFile markers w programs, (DocFile.parse docFile markers registry w).result = .ok programs →
      ∀ p ∈ programs, (∃ word, p.filename = word ++ '.' :: p.language) ∧ (registry.get? p.language).isSome) ∧
    (registry.SuppliedKnow → ∀ docFile dir config temporary w f,
      (DocFile.run launch docFile dir config registry temporary w).result = .error f →
        f.cause.kind? ≠ some .unsupportedLanguage ∧ f.exitCode ≠ 3) ∧
    (∀ package dir config temporary w f, (Package.run launch package dir config temporary w).result = .error f →
      f.cause.kind? ≠ some .unsupportedLanguage ∧ f.exitCode ≠ 3) ∧
    (∀ arguments w temporary, (CommandLine.run launch arguments w temporary).2.code ≠ 3) := by
  have hcode : ∀ {f : Failure}, f.cause.KnowsLanguage →
      f.cause.kind? ≠ some .unsupportedLanguage ∧ f.exitCode ≠ 3 :=
    fun h => ⟨h, mt Cause.exitCode_eq_three_iff.1 h⟩
  refine ⟨fun docFile markers w programs h p hp => ?_, fun hr docFile dir config temporary w f hf => ?_,
    fun package dir config temporary w f hf => ?_, fun arguments w temporary => ?_⟩
  · obtain ⟨source, hsource⟩ := DocFile.source_of_parse h
    obtain ⟨hlanguage, hfile⟩ := Program.language_of_ofSource hsource hp
    exact ⟨hfile, (Table.mem_keys_iff registry p.language).1 hlanguage⟩
  · exact hcode (DocFile.failsOnly_run hr launch docFile dir config temporary w f hf)
  · exact hcode (Package.failsOnly_run launch package dir config temporary w f hf)
  · unfold CommandLine.run
    split
    · simp [CommandLine.Ending.code]
    · simp [CommandLine.Ending.code]
    · simp [CommandLine.Ending.code]
    · rename_i package dir config _
      cases hr : (CommandLine.runPackage launch package dir config temporary w).result with
      | ok summary => simp [CommandLine.Ending.ofResult, CommandLine.Ending.code, hr]
      | error f =>
        simp only [CommandLine.Ending.ofResult, CommandLine.Ending.code, hr]
        exact (hcode (CommandLine.failsOnly_runPackage launch package dir config temporary w f hr)).2

/-- two languages, the text of the one at the start of that of the other; a program of either prints its own code -/
def plusRegistry : Registry :=
  let copy : Strategy := .supplied fun p _ => return p.code
  (Registry.empty.register "c".toList copy).register "c++".toList copy

/-- a world with a doc file for them -/
def plusWorld : World where
  entries := [{
    place := ["doc".toList]
    entry := .file (Text.encode "/*\na.c++ x\n\n\tq\n\nb.cc\n\n\tr\n*/\n".toList) 0o644 }]

theorem parsed_programs_have_strategies_plus :
    let launch : Launcher := fun _ _ w => (w, .error .noEntry)
    let programs : List Program :=
      [⟨4, 4, "a.c++".toList, "c++".toList, "q\n".toList, none⟩, ⟨8, 8, "b.c".toList, "c".toList, "r\n".toList, none⟩]
    (DocFile.parse "/doc".toList {} plusRegistry plusWorld).result = .ok programs ∧
      (∀ p ∈ programs, (∃ word, p.filename = word ++ '.' :: p.language) ∧ (plusRegistry.get? p.language).isSome) ∧
      plusRegistry.SuppliedKnow ∧
      ∀ f, (DocFile.run launch "/doc".toList none {} plusRegistry .system plusWorld).result = .error f →
        f.cause.kind? ≠ some .unsupportedLanguage ∧ f.exitCode ≠ 3 := by
  intro launch programs
  have hparse : (DocFile.parse "/doc".toList {} plusRegistry plusWorld).result = .ok programs := by decide +kernel
  have hcopy : ∀ behaviour, Strategy.supplied (fun p _ => return p.code) = .supplied behaviour →
      ∀ p s, (behaviour p s).FailsOnly Cause.KnowsLanguage := by
    rintro behaviour ⟨⟩ p s
    exact Action.failsOnly_pure _
  have hknow : plusRegistry.SuppliedKnow := (Registry.suppliedKnow_empty.register _ hcopy).register _ hcopy
  obtain ⟨hfound, hrun, -, -⟩ := parsed_programs_have_strategies launch plusRegistry
  exact ⟨hparse, hfound _ _ _ _ hparse, hknow, hrun hknow _ _ _ _ _⟩

end RunnableDocs
