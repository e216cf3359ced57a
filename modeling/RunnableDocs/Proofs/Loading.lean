/-
What loading a configuration gives.

Loading reads at most one file and changes nothing (`Config.load_eq`). What it gives is valid, the default of a missing
file included (`CommandLine.validate_of_loadConfig`), and so each of its parts can be used (`Config.validate_eq_ok_iff`).
-/
import RunnableDocs.Proofs.Failing

namespace RunnableDocs

namespace Config

/-- a configuration of which every part can be used later -/
structure Usable (config : Config) : Prop where
  timeout : config.timeoutSecs ≠ some 0
  rootCommand : isCommand config.locate.rootCommand = true
  docFile : Text.trim config.locate.docFile ≠ []
  opening : config.markers.opening ≠ []
  closing : config.markers.closing ≠ []
  languages : ∀ e ∈ config.languages.entries, isExtension e.1 = true ∧ isCommand e.2.command = true

theorem languageFault?_eq_none_iff {entries : List (Text × Language)} :
    languageFault? entries = none ↔ ∀ e ∈ entries, isExtension e.1 = true ∧ isCommand e.2.command = true := by
  induction entries with
  | nil => simp [languageFault?]
  | cons e rest ih =>
    rw [languageFault?, List.forall_mem_cons, ← ih]
    cases he : isExtension e.1 <;> cases hc : isCommand e.2.command <;> simp

theorem fault?_eq_none_iff {config : Config} : config.fault? = none ↔ config.Usable := by
  constructor
  · intro h
    unfold fault? at h
    split_ifs at h with htimeout hroot hdoc hmarkers
    have hmarkers : config.markers.opening ≠ [] ∧ config.markers.closing ≠ [] := by simpa using hmarkers
    exact
      { timeout := htimeout
        rootCommand := by simpa using hroot
        docFile := hdoc
        opening := hmarkers.1
        closing := hmarkers.2
        languages := languageFault?_eq_none_iff.1 h }
  · rintro ⟨htimeout, hroot, hdoc, hopening, hclosing, hlanguages⟩
    simp [fault?, htimeout, hroot, hdoc, hopening, hclosing, languageFault?_eq_none_iff.2 hlanguages]

/-- **Just the usable configurations are valid.** -/
theorem validate_eq_ok_iff {config : Config} : config.validate = .ok () ↔ config.Usable := by
  rw [← fault?_eq_none_iff, validate]
  cases config.fault? <;> simp

theorem validate_of_parse {document : Text} {config : Config} (h : parse document = .ok config) :
    config.validate = .ok () := by
  unfold parse at h
  split at h
  · cases h
  · rename_i written _
    cases hv : written.validate with
    | error f =>
      rw [hv] at h
      cases h
    | ok u =>
      rw [hv] at h
      obtain rfl := Except.ok.inj h
      exact hv

theorem load_eq (path : Path) (w : World) :
    load path w = ⟨[], w,
      if w.pathExists path then
        match World.readText path w with
        | .error e => .error (Failure.during (.readFile path) e)
        | .ok text => (parse text).mapError (·.during (.loadConfig path))
      else .ok {}⟩ := by
  unfold load
  split_ifs with hexists
  · cases hr : World.readText path w with
    | error e =>
      have hread : ((Action.inspect (World.readText path)).during (.readFile path) w).result =
          .error (Failure.during (.readFile path) e) := by
        simp [Action.during, Action.inspect, hr, Except.mapError, Failure.ofSystem]
      rw [Action.bind_of_error hread]
      rfl
    | ok text =>
      have hread : ((Action.inspect (World.readText path)).during (.readFile path) w).result = .ok text := by
        simp [Action.during, Action.inspect, hr, Except.mapError]
      rw [Action.bind_of_ok hread]
      rfl
  · rfl

theorem validate_of_load {path : Path} {w : World} {config : Config} (h : (load path w).result = .ok config) :
    config.validate = .ok () := by
  rw [load_eq] at h
  simp only at h
  split_ifs at h with hexists
  · split at h
    · cases h
    · rename_i text _
      cases hp : parse text with
      | error f =>
        rw [hp] at h
        cases h
      | ok written =>
        rw [hp] at h
        obtain rfl := Except.ok.inj h
        exact validate_of_parse hp
  · obtain rfl := Except.ok.inj h
    rfl

end Config

namespace CommandLine

/-- a file that is named has to be there -/
theorem loadConfig_some_eq (path : Path) (w : World) : loadConfig (some path) w =
    if w.pathExists path then Config.load path w else ⟨[], w, .error (Cause.configNotFound path)⟩ := by
  rw [loadConfig, @Action.bind_of_ok _ _ _ _ _ (w.pathExists path) rfl]
  simp only [Action.look, List.nil_append]
  split_ifs <;> rfl

theorem loadConfig_world (path : Option Path) (w : World) : (loadConfig path w).world = w := by
  cases path with
  | none => rw [loadConfig, Config.load_eq]
  | some path =>
    rw [loadConfig_some_eq]
    split_ifs
    · rw [Config.load_eq]
    · rfl

theorem validate_of_loadConfig {path : Option Path} {w : World} {config : Config}
    (h : (loadConfig path w).result = .ok config) : config.validate = .ok () := by
  cases path with
  | none => exact Config.validate_of_load h
  | some path =>
    rw [loadConfig_some_eq] at h
    split_ifs at h
    exact Config.validate_of_load h

end CommandLine
end RunnableDocs
