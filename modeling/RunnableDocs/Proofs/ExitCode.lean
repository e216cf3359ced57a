/-
The exit code tells what failed first.

A run of a package loads its configuration, looks up the roots, finds the doc file (`Finds`), parses it (`Parses`),
enters the run directory, and runs the programs there. `Succeeds` says that all of this goes well; `Stops` says what goes
wrong first, with its exit code, and does not speak of the activities around it.

- `result_of_succeeds` and `failsWith_of_stops`: what the command makes of either;
- `succeeds_or_stops`: there is nothing else;
- `exit_code_tells_first_failure`: the command ends with 0 and one line of output exactly if all goes well, and
  otherwise with the code of what went wrong first and no output;
- `directory_is_entered_for_no_program`: it is not enough that every program passes.
-/
import RunnableDocs.Proofs.Loading
import RunnableDocs.Proofs.ParseFault
import RunnableDocs.Proofs.Stopping
import RunnableDocs.Proofs.WholeText

namespace RunnableDocs

open Paragraph (isBlank startsWithTab)
open RunDirectory (Provider enterWith)
open Text (lines)

/-! ## Texts without programs to read -/

namespace Program

/-- a marker is missing, or the comment begins with code -/
inductive Malformed (markers : Markers) (source : Text) : Prop
  | noMarker {c : Cause} (h : Comment.Located markers source (.error c))
  | leadingCode {comment : Comment} {gap rest : List Text} {line : Text}
      (h : Comment.Located markers source (.ok comment)) (hbody : lines comment.body = gap ++ line :: rest)
      (hgap : ∀ l ∈ gap, isBlank l = true) (hline : isBlank line = false) (htab : startsWithTab line = true)

section
variable {markers : Markers} (hopening : markers.opening ≠ []) (hclosing : markers.closing ≠ [])
include hopening hclosing

theorem malformed_of_error {extensions : List Text} {source : Text} {c : Cause}
    (h : ofSource markers extensions source = .error c) : Malformed markers source ∧ c.exitCode = 2 := by
  have hlocated := Comment.located_ofSource hopening hclosing source
  rcases ofSource_eq_error_cases.1 h with hnone | ⟨comment, hcomment, hps⟩
  · rw [hnone] at hlocated
    exact ⟨.noMarker hlocated, by cases hlocated <;> rfl⟩
  · rw [hcomment] at hlocated
    obtain ⟨gap, line, rest, hbody, hgap, hline, htab, rfl⟩ := ofParagraphs_blocks_eq_error_iff.1 hps
    exact ⟨.leadingCode hlocated hbody hgap hline htab, rfl⟩

theorem exists_error_of_malformed (extensions : List Text) {source : Text} (h : Malformed markers source) :
    ∃ c, ofSource markers extensions source = .error c := by
  have hlocated := Comment.located_ofSource hopening hclosing source
  cases h with
  | @noMarker c h => exact ⟨c, ofSource_eq_error_cases.2 (Or.inl (hlocated.unique h))⟩
  | @leadingCode comment gap rest line h hbody hgap hline htab =>
    refine ⟨.codeWithoutDeclaration (comment.firstLine + gap.length), ofSource_eq_error_cases.2 (Or.inr ?_)⟩
    refine ⟨comment, hlocated.unique h, ?_⟩
    exact ofParagraphs_blocks_eq_error_iff.2 ⟨gap, line, rest, hbody, hgap, hline, htab, rfl⟩

end

end Program

namespace Locate

theorem exitCode_of_workspaceRoots {launch : Launcher} {l : Locate} {w : World} {f : Failure}
    (h : (l.workspaceRoots launch w).result = .error f) : f.exitCode = 1 := by
  have hraises := failsOnly_workspaceRoots launch l w f h
  rw [Failure.exitCode]
  cases hc : f.cause <;> simp_all [RaisesForRoots, Cause.exitCode, Cause.kind?]

theorem findDocFile_of_roots {launch : Launcher} {l : Locate} {w : World} {roots : List Path}
    (h : (l.workspaceRoots launch w).result = .ok roots) (package : Text) :
    l.findDocFile launch package w = ⟨(l.workspaceRoots launch w).events, (l.workspaceRoots launch w).world,
      choose (l.candidates package roots) (l.workspaceRoots launch w).world⟩ := by
  rw [findDocFile, Action.bind_of_ok h, @Action.bind_of_ok _ _ _ _ _ (choose _ _) rfl]
  simp [Action.look, Action.ofResult]

end Locate

theorem RunDirectory.exitCode_of_enterWith {temporary : Provider} {dir : Option Path} {w : World} {f : Failure}
    (h : (enterWith temporary dir w).result = .error f) : f.exitCode = 1 :=
  @Action.failsOnly_enterWith (fun c => c.exitCode = 1) (fun _ => rfl) temporary dir w f h

namespace CommandLine

open RunnableDocs.Action (FailsWith failsWith_bind_of_failsWith failsWith_during_iff)

/-! ## What goes well -/

section
variable (launch : Launcher) (temporary : Provider) (package : Text) (dir path : Option Path) (w : World)

/-- the configuration `config` is loaded, and `docFile` is the first candidate below the roots that is a file in the
world `start`, which the look for the roots has left -/
inductive Finds (config : Config) (docFile : Path) (start : World) : Prop
  | intro {roots : List Path} (loads : (loadConfig path w).result = .ok config)
      (looks : (config.locate.workspaceRoots launch w).result = .ok roots)
      (left : (config.locate.workspaceRoots launch w).world = start)
      (first : (config.locate.candidates package roots).find? start.isFile = some docFile)

/-- the doc file that is found has these programs -/
structure Parses (config : Config) (docFile : Path) (start : World) (programs : List Program) : Prop where
  finds : Finds launch package path w config docFile start
  reads : ∃ source, World.readText docFile start = .ok source ∧
    Program.ofSource config.markers (Registry.ofConfig config).extensions source = .ok programs

/-- the run directory is entered, and every program passes in it, in the world that the ones before have left -/
inductive Succeeds (docFile : Path) (programs : List Program) : Prop
  | intro {config : Config} {start : World} {d : RunDirectory}
      (parses : Parses launch package path w config docFile start programs)
      (enters : (enterWith temporary dir start).result = .ok d)
      (passes : Batch.AllPass launch (Registry.ofConfig config) ⟨d.path, config.limit⟩ programs
        (enterWith temporary dir start).world)

/-! ## What goes wrong -/

/-- the first thing that goes wrong, and how that is told -/
inductive Stops : ℕ → Prop
  | config {f : Failure} (h : (loadConfig path w).result = .error f) : Stops 1
  | roots {config : Config} {f : Failure} (loads : (loadConfig path w).result = .ok config)
      (h : (config.locate.workspaceRoots launch w).result = .error f) : Stops 1
  | noDocFile {config : Config} {roots : List Path} (loads : (loadConfig path w).result = .ok config)
      (looks : (config.locate.workspaceRoots launch w).result = .ok roots)
      (h : ∀ candidate ∈ config.locate.candidates package roots,
        (config.locate.workspaceRoots launch w).world.isFile candidate = false) : Stops 2
  | unread {config : Config} {docFile : Path} {start : World} {e : SystemError}
      (finds : Finds launch package path w config docFile start) (h : World.readText docFile start = .error e) : Stops 1
  | malformed {config : Config} {docFile : Path} {start : World} {source : Text}
      (finds : Finds launch package path w config docFile start) (reads : World.readText docFile start = .ok source)
      (h : Program.Malformed config.markers source) : Stops 2
  | directory {config : Config} {docFile : Path} {start : World} {programs : List Program} {f : Failure}
      (parses : Parses launch package path w config docFile start programs)
      (h : (enterWith temporary dir start).result = .error f) : Stops 1
  | program {config : Config} {docFile : Path} {start : World} {programs : List Program} {d : RunDirectory} {k : ℕ}
      {p : Program} {code : ℕ} (parses : Parses launch package path w config docFile start programs)
      (enters : (enterWith temporary dir start).result = .ok d)
      (h : Batch.FirstStop launch (Registry.ofConfig config) ⟨d.path, config.limit⟩ programs
        (enterWith temporary dir start).world k p code) : Stops code

end

/-! ## The stages of a run -/

section
variable {launch : Launcher} {temporary : Provider} {package : Text} {dir path : Option Path} {w start : World}
  {config : Config} {docFile : Path} {programs : List Program} {d : RunDirectory} {code : ℕ}

theorem exitCode_of_loadConfig {f : Failure} (h : (loadConfig path w).result = .error f) : f.exitCode = 1 := by
  have hraises := failsOnly_loadConfig path w f h
  rw [Failure.exitCode]
  cases hc : f.cause <;> simp_all [Config.Raises, Cause.exitCode, Cause.kind?]

theorem Finds.markers_ne_nil (h : Finds launch package path w config docFile start) :
    config.markers.opening ≠ [] ∧ config.markers.closing ≠ [] := by
  obtain ⟨hloads, -⟩ := h
  have husable := Config.validate_eq_ok_iff.1 (validate_of_loadConfig hloads)
  exact ⟨husable.opening, husable.closing⟩

theorem result_of_loads (h : (loadConfig path w).result = .ok config) :
    (runPackage launch package dir path temporary w).result =
      (Package.run launch package dir config temporary w).result := by
  rw [runPackage, Action.bind_of_ok h, loadConfig_world]

theorem result_of_finds (h : Finds launch package path w config docFile start) :
    (runPackage launch package dir path temporary w).result =
      (DocFile.run launch docFile dir config (Registry.ofConfig config) temporary start).result := by
  obtain ⟨hloads, hlooks, rfl, hfirst⟩ := h
  have hfind := Locate.findDocFile_of_roots hlooks package
  simp only [Locate.choose, hfirst] at hfind
  have hduring := Action.during_of_ok hfind rfl (.locateDocumentation package)
  rw [result_of_loads hloads, Package.run, Action.bind_of_ok (by rw [hduring]), hduring]

theorem result_of_parses (h : Parses launch package path w config docFile start programs) :
    (runPackage launch package dir path temporary w).result =
      (Batch.run launch (Registry.ofConfig config) programs dir config.limit temporary start).result.map
        fun _ => ⟨docFile, programs.length⟩ := by
  obtain ⟨hfinds, source, hread, hprograms⟩ := h
  have hparse : (DocFile.parse docFile config.markers (Registry.ofConfig config) start).result = .ok programs := by
    rw [DocFile.parse_eq]
    simp only [hread, hprograms]
  rw [result_of_finds hfinds, DocFile.run_of_parse_ok hparse]

theorem result_of_enters (h : Parses launch package path w config docFile start programs)
    (hd : (enterWith temporary dir start).result = .ok d) :
    (runPackage launch package dir path temporary w).result =
      (Batch.runAll launch (Registry.ofConfig config) ⟨d.path, config.limit⟩ programs
        (enterWith temporary dir start).world).result.map fun _ => ⟨docFile, programs.length⟩ := by
  rw [result_of_parses h, Batch.run_eq hd]

theorem result_of_succeeds (h : Succeeds launch temporary package dir path w docFile programs) :
    (runPackage launch package dir path temporary w).result = .ok ⟨docFile, programs.length⟩ := by
  obtain ⟨hparses, hd, hpass⟩ := h
  rw [result_of_enters hparses hd, Batch.runAll_of_allPass hpass]
  rfl

theorem failsWith_of_stops (h : Stops launch temporary package dir path w code) :
    (runPackage launch package dir path temporary).FailsWith code w := by
  cases h with
  | @config f h =>
    have hone : f.exitCode = 1 := exitCode_of_loadConfig h
    exact (failsWith_bind_of_failsWith ⟨f, h, hone⟩).2 rfl
  | @roots config f loads h =>
    have hone : f.exitCode = 1 := Locate.exitCode_of_workspaceRoots h
    have hfind : (config.locate.findDocFile launch package).FailsWith 1 w :=
      (failsWith_bind_of_failsWith ⟨f, h, hone⟩).2 rfl
    rw [Action.failsWith_congr (result_of_loads loads)]
    exact (failsWith_bind_of_failsWith (failsWith_during_iff.2 hfind)).2 rfl
  | @noDocFile config roots loads looks h =>
    have hnone : (config.locate.candidates package roots).find?
        (config.locate.workspaceRoots launch w).world.isFile = none := List.find?_eq_none.2 (by simpa using h)
    have hfind : (config.locate.findDocFile launch package).FailsWith 2 w := by
      refine ⟨_, by rw [Locate.findDocFile_of_roots looks, Locate.choose, hnone], rfl⟩
    rw [Action.failsWith_congr (result_of_loads loads)]
    exact (failsWith_bind_of_failsWith (failsWith_during_iff.2 hfind)).2 rfl
  | @unread config docFile start e finds h =>
    have hparse : (DocFile.parse docFile config.markers (Registry.ofConfig config) start).result =
        .error (Failure.during (.readFile docFile) e) := by
      rw [DocFile.parse_eq]
      simp only [h]
    rw [Action.failsWith_congr (result_of_finds finds)]
    exact ⟨_, by rw [DocFile.run_of_parse_error hparse], rfl⟩
  | @malformed config docFile start source finds reads h =>
    obtain ⟨hopening, hclosing⟩ := finds.markers_ne_nil
    obtain ⟨c, hc⟩ := Program.exists_error_of_malformed hopening hclosing (Registry.ofConfig config).extensions h
    have hparse : (DocFile.parse docFile config.markers (Registry.ofConfig config) start).result =
        .error (Failure.during (.parseFile docFile) c) := by
      rw [DocFile.parse_eq]
      simp only [reads, hc]
    rw [Action.failsWith_congr (result_of_finds finds)]
    have htwo : (Failure.during (.parseFile docFile) c).exitCode = 2 :=
      (Program.malformed_of_error hopening hclosing hc).2
    exact ⟨_, by rw [DocFile.run_of_parse_error hparse], htwo⟩
  | @directory config docFile start programs f parses h =>
    have hone : f.exitCode = 1 := RunDirectory.exitCode_of_enterWith h
    refine ⟨f, ?_, hone⟩
    rw [result_of_parses parses, Batch.run, Action.bind_of_error h]
    rfl
  | @program config docFile start programs d k p code parses enters h =>
    obtain ⟨f, hfirst, hcode⟩ := (Batch.firstStop_iff fun _ _ => Registry.exists_ofLanguage).1 h
    refine ⟨f.during (.runProgram p.filename p.lineStart), ?_, hcode⟩
    rw [result_of_enters parses enters, Batch.runAll_of_firstFailure hfirst]
    rfl

/-! ## Nothing else -/

theorem finds_or_stops (launch : Launcher) (temporary : Provider) (package : Text) (dir path : Option Path)
    (w : World) :
    (∃ config docFile start, Finds launch package path w config docFile start) ∨
      ∃ code, Stops launch temporary package dir path w code := by
  cases hloads : (loadConfig path w).result with
  | error f => exact Or.inr ⟨1, .config hloads⟩
  | ok config =>
    cases hlooks : (config.locate.workspaceRoots launch w).result with
    | error f => exact Or.inr ⟨1, .roots hloads hlooks⟩
    | ok roots =>
      cases hfirst : (config.locate.candidates package roots).find?
          (config.locate.workspaceRoots launch w).world.isFile with
      | none => exact Or.inr ⟨2, .noDocFile hloads hlooks (by simpa using List.find?_eq_none.1 hfirst)⟩
      | some docFile => exact Or.inl ⟨config, docFile, _, hloads, hlooks, rfl, hfirst⟩

theorem parses_or_stops (temporary : Provider) (dir : Option Path)
    (finds : Finds launch package path w config docFile start) :
    (∃ programs, Parses launch package path w config docFile start programs) ∨
      ∃ code, Stops launch temporary package dir path w code := by
  cases hread : World.readText docFile start with
  | error e => exact Or.inr ⟨1, .unread finds hread⟩
  | ok source =>
    cases hprograms : Program.ofSource config.markers (Registry.ofConfig config).extensions source with
    | error c =>
      obtain ⟨hopening, hclosing⟩ := finds.markers_ne_nil
      exact Or.inr ⟨2, .malformed finds hread (Program.malformed_of_error hopening hclosing hprograms).1⟩
    | ok programs => exact Or.inl ⟨programs, finds, source, hread, hprograms⟩

theorem succeeds_or_stops (launch : Launcher) (temporary : Provider) (package : Text) (dir path : Option Path)
    (w : World) :
    (∃ docFile programs, Succeeds launch temporary package dir path w docFile programs) ∨
      ∃ code, Stops launch temporary package dir path w code := by
  rcases finds_or_stops launch temporary package dir path w with ⟨config, docFile, start, finds⟩ | hstops
  · rcases parses_or_stops temporary dir finds with ⟨programs, parses⟩ | hstops
    · cases hd : (enterWith temporary dir start).result with
      | error f => exact Or.inr ⟨1, .directory parses hd⟩
      | ok d =>
        have hbatch := @Batch.allPass_or_firstFailure launch (Registry.ofConfig config) ⟨d.path, config.limit⟩ programs
          (enterWith temporary dir start).world
        rcases hbatch with hall | ⟨k, p, f, hfirst⟩
        · exact Or.inl ⟨docFile, programs, parses, hd, hall⟩
        · have hstop := (Batch.firstStop_iff fun _ _ => Registry.exists_ofLanguage).2 ⟨f, hfirst, rfl⟩
          exact Or.inr ⟨f.exitCode, .program parses hd hstop⟩
    · exact Or.inr hstops
  · exact Or.inr hstops

end

/-! ## How the command ends -/

theorem exitCode_ne_zero (f : Failure) : f.exitCode ≠ 0 := by
  rw [Failure.exitCode, Cause.exitCode]
  cases f.cause.kind? with
  | none => exact Nat.one_ne_zero
  | some k => cases k <;> decide

/-- **The exit code tells what failed first.** Take arguments that ask for a run of a package. The command ends with the
code 0 exactly if everything goes well, from the configuration to the last program. Then its output is the one line that
tells the number of programs. If something goes wrong, its output is empty and the code is that of the first thing that
does. There is nothing else. -/
theorem exit_code_tells_first_failure (launch : Launcher) (temporary : Provider) (w : World) {arguments : List Text}
    {package : Text} {dir path : Option Path} (h : request? arguments = some (.run package dir path)) :
    ((run launch arguments w temporary).2.code = 0 ↔
        ∃ docFile programs, Succeeds launch temporary package dir path w docFile programs) ∧
      (∀ docFile programs, Succeeds launch temporary package dir path w docFile programs →
        (run launch arguments w temporary).2 = .done 0 (summaryLine ⟨docFile, programs.length⟩) []) ∧
      (∀ code, Stops launch temporary package dir path w code →
        code ≠ 0 ∧ ∃ message, (run launch arguments w temporary).2 = .done code [] message) ∧
      ((∃ docFile programs, Succeeds launch temporary package dir path w docFile programs) ∨
        ∃ code, Stops launch temporary package dir path w code) := by
  have hrun : (run launch arguments w temporary).2 =
      Ending.ofResult (runPackage launch package dir path temporary w).result := by
    rw [run, h]
  have hgood : ∀ docFile programs, Succeeds launch temporary package dir path w docFile programs →
      (run launch arguments w temporary).2 = .done 0 (summaryLine ⟨docFile, programs.length⟩) [] := by
    intro docFile programs hsucceeds
    rw [hrun, result_of_succeeds hsucceeds]
    rfl
  have hbad : ∀ code, Stops launch temporary package dir path w code →
      code ≠ 0 ∧ ∃ message, (run launch arguments w temporary).2 = .done code [] message := by
    intro code hstops
    obtain ⟨f, hf, rfl⟩ := failsWith_of_stops hstops
    refine ⟨exitCode_ne_zero f, f.message.toList ++ ['\n'], ?_⟩
    rw [hrun, hf]
    rfl
  have hall := succeeds_or_stops launch temporary package dir path w
  refine ⟨⟨fun hzero => ?_, ?_⟩, hgood, hbad, hall⟩
  · refine hall.resolve_right ?_
    rintro ⟨code, hstops⟩
    obtain ⟨hne, message, hending⟩ := hbad code hstops
    rw [hending] at hzero
    exact hne hzero
  · rintro ⟨docFile, programs, hsucceeds⟩
    rw [hgood docFile programs hsucceeds]
    rfl

/-- the root command prints one root, and every other child ends with the code 3 -/
def oneRoot : Launcher := fun c _ w =>
  if c.program = "go".toList then (w, .ok ⟨.exited 0, Text.encode "/go\n".toList, [], false⟩)
  else (w, .ok ⟨.exited 3, [], [], false⟩)

/-- a world with the doc file of one package, and a file in the way of a directory -/
def packageWorld (source : Text) : World :=
  { entries := [
      { place := ["go".toList], entry := .directory },
      { place := ["go".toList, "src".toList], entry := .directory },
      { place := ["go".toList, "src".toList, "pkg".toList], entry := .directory },
      { place := ["go".toList, "src".toList, "pkg".toList, "doc.go".toList], entry := .file (Text.encode source) 0o644 },
      { place := ["taken".toList], entry := .file [] 0o644 }] }

theorem exit_code_tells_first_failure_crashing :
    let w := packageWorld "/*\nrun.py:\n\n\texit(3)\n*/\n".toList
    let arguments := ["-p".toList, "pkg".toList, "--dir=/run".toList]
    request? arguments = some (.run "pkg".toList (some "/run".toList) none) ∧
      Stops oneRoot .system "pkg".toList (some "/run".toList) none w 5 ∧
      ∃ message, (run oneRoot arguments w).2 = .done 5 [] message := by
  intro w arguments
  have hrequest : request? arguments = some (.run "pkg".toList (some "/run".toList) none) := by decide +kernel
  have hfive : (run oneRoot arguments w).2.code = 5 := by decide +kernel
  obtain ⟨hzero, -, hbad, hall⟩ := exit_code_tells_first_failure oneRoot .system w hrequest
  rcases hall with hgood | ⟨code, hstops⟩
  · rw [hzero.2 hgood] at hfive
    cases hfive
  · obtain ⟨-, message, hending⟩ := hbad code hstops
    rw [hending] at hfive
    obtain rfl : code = 5 := hfive
    exact ⟨hrequest, hstops, message, hending⟩

/-- a doc file with a comment, and no program in it -/
def bareSource : Text := "/*\nNo programs here.\n*/\npackage pkg\n".toList

/-- the run directory has to be entered also if there is no program to run in it -/
theorem directory_is_entered_for_no_program :
    let w := packageWorld bareSource
    let dir := some "/taken".toList
    let arguments := ["-p".toList, "pkg".toList, "--dir=/taken".toList]
    request? arguments = some (.run "pkg".toList dir none) ∧
      ¬ ((run oneRoot arguments w).2.code = 0 ↔
        ∃ config docFile start programs s, Parses oneRoot "pkg".toList none w config docFile start programs ∧
          Batch.AllPass oneRoot (Registry.ofConfig config) s programs (RunDirectory.enter dir start).world) := by
  intro w dir arguments
  have hrequest : request? arguments = some (.run "pkg".toList dir none) := by decide +kernel
  have hone : (run oneRoot arguments w).2.code = 1 := by decide +kernel
  have hfinds : Finds oneRoot "pkg".toList none w {} "/go/src/pkg/doc.go".toList w := by
    refine @Finds.intro _ _ _ _ _ _ _ ["/go".toList] ?_ ?_ ?_ ?_
    · rw [loadConfig, Config.load_eq]
      have hmissing : w.pathExists configFile = false := by decide +kernel
      simp [hmissing]
    · decide +kernel
    · decide +kernel
    · decide +kernel
  have hparses : Parses oneRoot "pkg".toList none w {} "/go/src/pkg/doc.go".toList w [] :=
    ⟨hfinds, bareSource, by decide +kernel, by decide +kernel⟩
  refine ⟨hrequest, fun hiff => ?_⟩
  have hpass : ∀ s v, Batch.AllPass oneRoot (Registry.ofConfig {}) s [] v := fun s v j q hq => absurd hq (by simp)
  have hzero := hiff.2 ⟨{}, _, w, [], ⟨"/taken".toList, none⟩, hparses, hpass _ _⟩
  rw [hone] at hzero
  cases hzero

end CommandLine
end RunnableDocs
