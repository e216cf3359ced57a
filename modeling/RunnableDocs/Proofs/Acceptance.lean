/-
What an accepted configuration rules out later.

A strategy without a command, and a search without a root command, are refused where they would be used
(`Cause.IsMissingCommand`). A configuration that is read is one that was accepted (`Config.Accepted`), the default of a
missing file included, and so neither refusal ever happens with it: each strategy of its registry is one of the library
with a command (`Registry.hasCommands_ofConfig`), be it one of the first languages, one in the stead of such a one, or
one that was added, and a strategy with a command has none of the endings without one.

`accepted_configurations_hold_later` puts this together with what acceptance says of the markers and the extensions: a
comment is closed by a marker that is there, and the extensions that are looked for are letters and digits.
-/
import RunnableDocs.Proofs.DocFileSearch
import RunnableDocs.Proofs.FileNames
import RunnableDocs.Proofs.WholeText

namespace RunnableDocs

open RunnableDocs.Action (FailsOnly)
open RunDirectory (Provider)
open Text (FirstAt)

namespace Config

/-- a configuration that a document writes, or that a file gives, the default of a missing file included -/
inductive Accepted (config : Config) : Prop
  | parsed {document : Text} (h : parse document = .ok config)
  | loaded {path : Path} {w : World} (h : (load path w).result = .ok config)

theorem Accepted.usable {config : Config} (h : config.Accepted) : config.Usable := by
  cases h with
  | parsed h => exact validate_eq_ok_iff.1 (validate_of_parse h)
  | loaded h => exact validate_eq_ok_iff.1 (validate_of_load h)

theorem ofParts?_of_isCommand {parts : List Text} (h : isCommand parts = true) : Command.ofParts? parts ≠ none := by
  cases parts with
  | nil => cases h
  | cons program args => exact Option.some_ne_none _

end Config

/-! ## Commands that are missing -/

/-- a command was to be run and there is none -/
def Cause.IsMissingCommand : Cause → Prop
  | .emptyCommand | .emptyRootCommand => True
  | _ => False

theorem Cause.ne_of_not_isMissingCommand {c : Cause} (h : ¬ c.IsMissingCommand) :
    c ≠ .emptyCommand ∧ c ≠ .emptyRootCommand :=
  ⟨fun he => h (he ▸ trivial), fun he => h (he ▸ trivial)⟩

/-- a strategy with a command has only endings that have one -/
theorem Strategy.failsOnly_execute_of_command {l : Language} (h : Config.isCommand l.command = true) (launch : Launcher)
    (p : Program) (s : Setting) : ((ofLanguage l).execute launch p s).FailsOnly (¬ ·.IsMissingCommand) := by
  intro w f hf
  obtain ⟨o, ho⟩ := exists_ends launch p s w l
  rw [execute_of_ends ho] at hf
  cases ho with
  | empty _ hc => exact absurd hc (Config.ofParts?_of_isCommand h)
  | interpreted => cases hf
  | executable => cases hf
  | _ =>
    cases hf
    exact id

theorem Locate.failsOnly_findDocFile_of_command {l : Locate} (h : Config.isCommand l.rootCommand = true)
    (launch : Launcher) (package : Text) : (l.findDocFile launch package).FailsOnly (¬ ·.IsMissingCommand) := by
  intro w f hf
  obtain ⟨o, ho⟩ := exists_ends launch l package w
  rw [findDocFile_of_ends ho] at hf
  cases ho with
  | noCommand hc => exact absurd hc (Config.ofParts?_of_isCommand h)
  | found => cases hf
  | _ =>
    cases hf
    exact id

/-! ## The registry of an accepted configuration -/

namespace Registry

/-- every known strategy is one of the library and has a command -/
def HasCommands (r : Registry) : Prop := ∀ extension strategy, r.get? extension = some strategy →
  ∃ l : Language, strategy = .ofLanguage l ∧ Config.isCommand l.command = true

theorem HasCommands.register {r : Registry} (hr : r.HasCommands) (extension : Text) {l : Language}
    (hl : Config.isCommand l.command = true) : (r.register extension (.ofLanguage l)).HasCommands := by
  intro key strategy hget
  rw [get?_register] at hget
  split_ifs at hget
  · exact ⟨l, (Option.some.inj hget).symm, hl⟩
  · exact hr key strategy hget

theorem hasCommands_builtin : builtin.HasCommands := by
  have hempty : empty.HasCommands := by
    intro extension strategy hget
    cases hget
  have hpy := hempty.register "py".toList (l := .interpreted ["python3".toList]) (by decide)
  exact hpy.register "go".toList (l := .buildThenRun ["go".toList, "build".toList]) (by decide)

/-- a language of an accepted configuration brings its command, in the stead of another one or beside the others -/
theorem hasCommands_ofConfig {config : Config} (h : config.Usable) : (ofConfig config).HasCommands :=
  List.foldlRecOn _ _ hasCommands_builtin fun _ hr e he => hr.register e.1 (h.languages e he).2

end Registry

/-- a package run with an accepted configuration never lacks a command -/
theorem Package.failsOnly_run_of_usable {config : Config} (h : config.Usable) (launch : Launcher) (package : Text)
    (dir : Option Path) (temporary : Provider) :
    (Package.run launch package dir config temporary).FailsOnly (¬ ·.IsMissingCommand) := by
  refine ((Locate.failsOnly_findDocFile_of_command h.rootCommand launch package).during _).bind fun _ docFile _ => ?_
  refine DocFile.failsOnly_run_of (fun c hc => ?_) (fun _ _ _ => id) (fun extension strategy hget p s => ?_) docFile dir
    config temporary
  · rcases hc with ⟨e, rfl⟩ | hkind
    · exact id
    · cases c <;> simp_all [Cause.IsMissingCommand, Cause.kind?]
  · obtain ⟨l, rfl, hcommand⟩ := Registry.hasCommands_ofConfig h extension strategy hget
    exact Strategy.failsOnly_execute_of_command hcommand launch p s

theorem Config.of_isExtension {extension : Text} (h : isExtension extension = true) :
    extension ≠ [] ∧ ∀ c ∈ extension, c.isAlphanum = true := by simpa [isExtension] using h

/-- **What is accepted holds later.** With a configuration that was read, from a document, from a file, or because there
is no file, a run of a package never fails because a command is missing, whatever the doc file holds and the children
do; nor does the search for the doc file, nor any program that is given to a strategy of the registry. Neither marker is
empty, and the comment of a source ends where a whole close marker stands behind it. Every extension that is looked for
is made of letters and digits, of at least one. -/
theorem accepted_configurations_hold_later {config : Config} (h : config.Accepted) :
    (∀ launch package dir temporary w f, (Package.run launch package dir config temporary w).result = .error f →
      f.cause ≠ .emptyCommand ∧ f.cause ≠ .emptyRootCommand) ∧
    (∀ launch package w f, (config.locate.findDocFile launch package w).result = .error f →
      f.cause ≠ .emptyRootCommand) ∧
    (∀ extension strategy, (Registry.ofConfig config).get? extension = some strategy →
      ∀ launch p s w f, (strategy.execute launch p s w).result = .error f → f.cause ≠ .emptyCommand) ∧
    (config.markers.opening ≠ [] ∧ config.markers.closing ≠ [] ∧
      ∀ source comment, Comment.ofSource config.markers source = .ok comment →
        ∃ before rest after, FirstAt config.markers.opening source before rest ∧
          FirstAt config.markers.closing rest comment.body after) ∧
    ∀ extension ∈ (Registry.ofConfig config).extensions, extension ≠ [] ∧ ∀ c ∈ extension, c.isAlphanum = true := by
  have husable := h.usable
  refine ⟨fun launch package dir temporary w f hf => ?_, fun launch package w f hf => ?_,
    fun extension strategy hget launch p s w f hf => ?_,
    ⟨husable.opening, husable.closing, fun source comment hcomment => ?_⟩, fun extension hm => ?_⟩
  · exact Cause.ne_of_not_isMissingCommand (Package.failsOnly_run_of_usable husable launch package dir temporary w f hf)
  · have hsearch := Locate.failsOnly_findDocFile_of_command husable.rootCommand launch package w f hf
    exact (Cause.ne_of_not_isMissingCommand hsearch).2
  · obtain ⟨l, rfl, hcommand⟩ := Registry.hasCommands_ofConfig husable extension strategy hget
    have hprogram := Strategy.failsOnly_execute_of_command hcommand launch p s w f hf
    exact (Cause.ne_of_not_isMissingCommand hprogram).1
  · have hlocated := Comment.located_ofSource husable.opening husable.closing source
    rw [hcomment] at hlocated
    cases hlocated with
    | enclosed _ hopen _ hclose => exact ⟨_, _, _, hopen, hclose⟩
  · have hknown := (Table.mem_keys_iff (Registry.ofConfig config) extension).1 hm
    exact Config.of_isExtension (Registry.hasPlainExtensions_ofConfig (Config.validate_eq_ok_iff.2 husable) _ hknown)

/-- a document that gives one of the first languages another strategy, adds one, and has other markers -/
def overridingDocument : Text :=
  ("comment = ['<!--', '-->']\n[languages.py]\nkind = 'build_then_run'\nbuild = ['cc']\n" ++
    "[languages.c11]\nkind = 'interpreted'\ncommand = ['sh', '-e']\n").toList

theorem accepted_configurations_hold_later_overriding :
    ∃ config, Config.parse overridingDocument = .ok config ∧
      config.languages.entries =
        [("c11".toList, .interpreted ["sh".toList, "-e".toList]), ("py".toList, .buildThenRun ["cc".toList])] ∧
      config.markers = ⟨"<!--".toList, "-->".toList⟩ ∧
      (Registry.ofConfig config).get? "py".toList = some (.buildThenRun ["cc".toList]) ∧
      (∀ launch p s w f, ((Strategy.buildThenRun ["cc".toList]).execute launch p s w).result = .error f →
        f.cause ≠ .emptyCommand) ∧
      (∀ launch package dir temporary w f, (Package.run launch package dir config temporary w).result = .error f →
        f.cause ≠ .emptyCommand ∧ f.cause ≠ .emptyRootCommand) ∧
      "c11".toList ∈ (Registry.ofConfig config).extensions := by
  have hread : ((Config.parse overridingDocument).toOption.map fun c => (c.languages.entries, c.markers)) =
      some ([("c11".toList, .interpreted ["sh".toList, "-e".toList]), ("py".toList, .buildThenRun ["cc".toList])],
        ⟨"<!--".toList, "-->".toList⟩) := by decide +kernel
  obtain ⟨config, hparse, hparts⟩ := Option.map_eq_some_iff.1 hread
  obtain ⟨hentries, hmarkers⟩ := Prod.mk.inj hparts
  have hparse : Config.parse overridingDocument = .ok config := by
    cases hr : Config.parse overridingDocument with
    | error f =>
      rw [hr] at hparse
      cases hparse
    | ok c =>
      rw [hr] at hparse
      rw [Option.some.inj hparse]
  obtain ⟨hrun, -, hstrategy, -, -⟩ := accepted_configurations_hold_later (.parsed hparse)
  have hget : (Registry.ofConfig config).get? "py".toList = some (.buildThenRun ["cc".toList]) := by
    rw [Registry.ofConfig, hentries]
    rfl
  have hadded : "c11".toList ∈ (Registry.ofConfig config).extensions := by
    rw [Registry.ofConfig, hentries]
    decide
  exact ⟨config, hparse, hentries, hmarkers, hget, hstrategy _ _ hget, hrun, hadded⟩

end RunnableDocs
