/-
Which doc file is found.

The root command prints roots with colons between them and white space around them (`Locate.Lists`); an output lists one
sequence of roots and no other (`lists_iff`). The search has the endings of `Locate.Ends` and no others (`ends_iff`): the
root command does not succeed, it prints no root, the doc file is below a root and below none before it
(`Locate.FirstBelow`), or it is below none of them.

`first_root_wins` reads off what the search gives: the path below the first root that has the file, whatever is below the
later ones; else a failure that names the path below the first root, which is never empty; and a failure of no kind
exactly if there is no root to look below.
-/
import RunnableDocs.Locate
import RunnableDocs.Proofs.Endings
import RunnableDocs.Proofs.Text.Trim

namespace RunnableDocs

open RunnableDocs.Action (bind_of_quiet bind_of_refused)
open Text (IsCore Surrounds)

namespace Locate

/-! ## What the root command prints -/

/-- the output is pieces with a colon between each and the next, and white space around all of that; the roots are the
pieces that are not empty, in order -/
inductive Lists (output : Text) : List Path → Prop
  | intro {core : Text} {pieces : List Text} (hcore : IsCore core) (hout : Surrounds core output) (hne : pieces ≠ [])
      (hcolon : ∀ piece ∈ pieces, ':' ∉ piece) (hjoin : core = [':'].intercalate pieces) :
      Lists output (pieces.filter (· ≠ []))

theorem lists_iff {output : Text} {roots : List Path} : Lists output roots ↔ roots = rootsIn output := by
  constructor
  · rintro ⟨hcore, hout, hne, hcolon, rfl⟩
    rw [rootsIn, Text.trim_of_surrounds hcore hout, Text.splitOn_intercalate hne hcolon]
  · rintro rfl
    exact .intro (Text.isCore_trim output) (Text.surrounds_trim output) (Text.splitOn_ne_nil ':' _)
      (fun _ hpiece hmark => (Text.of_mem_splitOn hpiece _ hmark).2 rfl) (Text.intercalate_splitOn ':' _).symm

theorem Lists.ne_nil {output : Text} {roots : List Path} (h : Lists output roots) {root : Path} (hm : root ∈ roots) :
    root ≠ [] := by
  obtain ⟨-, -, -, -, -⟩ := h
  simpa using (List.mem_filter.1 hm).2

variable {launch : Launcher} {l : Locate} {package : Text} {roots : List Path} {root path : Path} {w left : World}
  {output : Text} {command : Command} {ended : Ended}

/-- the root command as one line -/
def rootLine (l : Locate) : Text := [' '].intercalate (l.rootCommand.map Command.shownPart)

theorem display_of_ofParts (h : Command.ofParts? l.rootCommand = some command) : command.display = l.rootLine := by
  unfold Command.ofParts? at h
  split at h
  · cases h
  · rename_i program args hparts
    obtain rfl := Option.some.inj h
    rw [rootLine, hparts]
    rfl

/-- the root command is started and succeeds; this world is left and this text is printed -/
inductive Prints (launch : Launcher) (l : Locate) (w left : World) : Text → Prop
  | intro {command : Command} {ended : Ended} (hc : Command.ofParts? l.rootCommand = some command)
      (hl : launch command none w = (left, .ok ended)) (hs : ¬ ended.Failed) :
      Prints launch l w left (Text.decode ended.stdout)

theorem workspaceRoots_of_none (h : Command.ofParts? l.rootCommand = none) :
    l.workspaceRoots launch w = ⟨[], w, .error (Failure.ofCause .emptyRootCommand)⟩ := by
  rw [workspaceRoots, h]
  rfl

theorem workspaceRoots_of_refused {e : SystemError} (hc : Command.ofParts? l.rootCommand = some command)
    (hl : launch command none w = (left, .error e)) :
    l.workspaceRoots launch w = ⟨[], left, .error (command.refusal l.rootLine e)⟩ := by
  rw [workspaceRoots, hc, ← display_of_ofParts hc]
  exact bind_of_refused (Command.run_of_error hl _)

theorem workspaceRoots_of_failed (hc : Command.ofParts? l.rootCommand = some command)
    (hl : launch command none w = (left, .ok ended)) (hf : ended.Failed) :
    l.workspaceRoots launch w = ⟨[], left,
      .error (Failure.ofCause (.rootCommandFailed l.rootLine (Text.trim (Text.decode ended.stderr))))⟩ := by
  have hs : (CommandOutput.ofEnded ended).success = false :=
    Bool.eq_false_iff.2 fun hs => (success_ofEnded ended).1 hs hf
  simp only [workspaceRoots, hc, ← display_of_ofParts hc]
  rw [bind_of_quiet (Action.during_of_ok (Command.run_of_ok hl) rfl _), hs]
  rfl

theorem workspaceRoots_of_prints (h : Prints launch l w left output) (hr : Lists output roots) :
    l.workspaceRoots launch w = ⟨[], left,
      if roots = [] then .error (Failure.ofCause (.noWorkspaceRoot l.rootLine)) else .ok roots⟩ := by
  cases h with
  | @intro command ended hc hl hs =>
    obtain rfl := lists_iff.1 hr
    have hstdout : (CommandOutput.ofEnded ended).stdout = Text.decode ended.stdout := rfl
    simp only [workspaceRoots, hc, ← display_of_ofParts hc]
    rw [bind_of_quiet (Action.during_of_ok (Command.run_of_ok hl) rfl _), (success_ofEnded _).2 hs]
    simp only [hstdout, Bool.not_true, Bool.false_eq_true, if_false]
    split_ifs <;> rfl

/-! ## Where the doc file is -/

/-- the path is where the doc file would be below a root, and a file is there; below no root before it there is one -/
structure FirstBelow (l : Locate) (package : Text) (roots : List Path) (w : World) (path : Path) : Prop where
  isFile : w.isFile path = true
  first : ∃ before root after, roots = before ++ root :: after ∧
    path = Path.join (Path.join (Path.join root l.sourceDir) package) l.docFile ∧
    ∀ earlier ∈ before, w.isFile (l.candidate package earlier) = false

/-- the doc file is below none of the roots -/
def Missing (l : Locate) (package : Text) (roots : List Path) (w : World) : Prop :=
  ∀ root ∈ roots, w.isFile (l.candidate package root) = false

theorem candidate_ne_nil (h : root ≠ []) : l.candidate package root ≠ [] :=
  Path.join_ne_nil (Path.join_ne_nil (Path.join_ne_nil h _) _) _

theorem find?_candidates_eq_some_iff :
    (l.candidates package roots).find? w.isFile = some path ↔ FirstBelow l package roots w path := by
  rw [candidates, List.find?_map, Option.map_eq_some_iff]
  constructor
  · rintro ⟨root, hfind, rfl⟩
    obtain ⟨hfile, before, after, hroots, hbefore⟩ := List.find?_eq_some_iff_append.1 hfind
    exact ⟨hfile, before, root, after, hroots, rfl, fun earlier hm => by simpa using hbefore earlier hm⟩
  · rintro ⟨hfile, before, root, after, hroots, rfl, hbefore⟩
    refine ⟨root, List.find?_eq_some_iff_append.2 ⟨hfile, before, after, hroots, fun earlier hm => ?_⟩, rfl⟩
    simpa using hbefore earlier hm

theorem find?_candidates_eq_none_iff :
    (l.candidates package roots).find? w.isFile = none ↔ Missing l package roots w := by
  simp [candidates, Missing]

theorem choose_of_firstBelow (h : FirstBelow l package roots w path) :
    choose (l.candidates package roots) w = .ok path := by
  rw [choose, find?_candidates_eq_some_iff.2 h]

theorem choose_of_missing {first : Path} {rest : List Path} (h : Missing l package (first :: rest) w) :
    choose (l.candidates package (first :: rest)) w =
      .error (Failure.ofCause (.docFileNotFound (l.candidate package first))) := by
  rw [choose, find?_candidates_eq_none_iff.2 h]
  rfl

/-! ## All endings of the search -/

/-- how the search for a doc file ends -/
inductive Ends (launch : Launcher) (l : Locate) (package : Text) (w : World) : Outcome Path → Prop
  | noCommand (h : Command.ofParts? l.rootCommand = none) :
      Ends launch l package w ⟨[], w, .error (Failure.ofCause .emptyRootCommand)⟩
  | refused {command : Command} {left : World} {e : SystemError} (hc : Command.ofParts? l.rootCommand = some command)
      (hl : launch command none w = (left, .error e)) :
      Ends launch l package w ⟨[], left, .error (command.refusal l.rootLine e)⟩
  | failed {command : Command} {left : World} {ended : Ended} (hc : Command.ofParts? l.rootCommand = some command)
      (hl : launch command none w = (left, .ok ended)) (hf : ended.Failed) :
      Ends launch l package w ⟨[], left,
        .error (Failure.ofCause (.rootCommandFailed l.rootLine (Text.trim (Text.decode ended.stderr))))⟩
  | noRoots {left : World} {output : Text} (hp : Prints launch l w left output) (hr : Lists output []) :
      Ends launch l package w ⟨[], left, .error (Failure.ofCause (.noWorkspaceRoot l.rootLine))⟩
  | found {left : World} {output : Text} {roots : List Path} {path : Path} (hp : Prints launch l w left output)
      (hr : Lists output roots) (h : FirstBelow l package roots left path) :
      Ends launch l package w ⟨[], left, .ok path⟩
  | missing {left : World} {output : Text} {first : Path} {rest : List Path} (hp : Prints launch l w left output)
      (hr : Lists output (first :: rest)) (h : Missing l package (first :: rest) left) :
      Ends launch l package w ⟨[], left, .error (Failure.ofCause (.docFileNotFound (l.candidate package first)))⟩

theorem findDocFile_of_lists {first : Path} {rest : List Path} (hp : Prints launch l w left output)
    (hr : Lists output (first :: rest)) :
    l.findDocFile launch package w = ⟨[], left, choose (l.candidates package (first :: rest)) left⟩ := by
  rw [findDocFile, bind_of_quiet (workspaceRoots_of_prints hp hr)]
  rfl

theorem findDocFile_of_ends {o : Outcome Path} (h : Ends launch l package w o) : l.findDocFile launch package w = o := by
  cases h with
  | noCommand h => exact bind_of_refused (workspaceRoots_of_none h)
  | refused hc hl => exact bind_of_refused (workspaceRoots_of_refused hc hl)
  | failed hc hl hf => exact bind_of_refused (workspaceRoots_of_failed hc hl hf)
  | noRoots hp hr => exact bind_of_refused (workspaceRoots_of_prints hp hr)
  | @found left output roots path hp hr h =>
    cases roots with
    | nil =>
      obtain ⟨-, before, root, after, hnil, -⟩ := h
      simp at hnil
    | cons first rest => rw [findDocFile_of_lists hp hr, choose_of_firstBelow h]
  | missing hp hr h => rw [findDocFile_of_lists hp hr, choose_of_missing h]

/-- nothing else can happen -/
theorem exists_ends (launch : Launcher) (l : Locate) (package : Text) (w : World) : ∃ o, Ends launch l package w o := by
  cases hc : Command.ofParts? l.rootCommand with
  | none => exact ⟨_, .noCommand hc⟩
  | some command =>
    rcases hl : launch command none w with ⟨left, e | ended⟩
    · exact ⟨_, .refused hc hl⟩
    by_cases hf : ended.Failed
    · exact ⟨_, .failed hc hl hf⟩
    have hp : Prints launch l w left (Text.decode ended.stdout) := .intro hc hl hf
    have hr : Lists (Text.decode ended.stdout) (rootsIn (Text.decode ended.stdout)) := lists_iff.2 rfl
    generalize rootsIn (Text.decode ended.stdout) = roots at hr
    cases hfind : (l.candidates package roots).find? left.isFile with
    | some path => exact ⟨_, .found hp hr (find?_candidates_eq_some_iff.1 hfind)⟩
    | none =>
      cases roots with
      | nil => exact ⟨_, .noRoots hp hr⟩
      | cons first rest => exact ⟨_, .missing hp hr (find?_candidates_eq_none_iff.1 hfind)⟩

/-- **All endings.** The search ends exactly as one of them tells. -/
theorem ends_iff {o : Outcome Path} : l.findDocFile launch package w = o ↔ Ends launch l package w o := by
  refine ⟨?_, findDocFile_of_ends⟩
  rintro rfl
  obtain ⟨o, ho⟩ := exists_ends launch l package w
  rwa [findDocFile_of_ends ho]

/-! ## What the search gives -/

/-- what the search gives if the root command lists these roots and leaves the world `left` -/
structure Answers (l : Locate) (package : Text) (roots : List Path) (left : World) (o : Outcome Path) : Prop where
  /-- the search itself reports nothing and changes nothing -/
  quiet : o.events = [] ∧ o.world = left
  /-- the doc file is the one below the first root that has it -/
  found : ∀ path, o.result = .ok path ↔ FirstBelow l package roots left path
  /-- if no root has it, the path below the first root is missed -/
  missing : ∀ path, o.result = .error (Failure.ofCause (.docFileNotFound path)) ↔
    ∃ first rest, roots = first :: rest ∧
      path = Path.join (Path.join (Path.join first l.sourceDir) package) l.docFile ∧ Missing l package roots left
  /-- without any root the search fails for a cause of no kind, and only then -/
  untyped : (∃ f, o.result = .error f ∧ f.cause.kind? = none) ↔ roots = []
  nothing_else : ∀ f, o.result = .error f →
    (∃ path, f = Failure.ofCause (.docFileNotFound path)) ∨ f.cause.kind? = none
  /-- no path is given that is not below a root -/
  not_invented : ∀ path, o.result = .ok path ∨ o.result = .error (Failure.ofCause (.docFileNotFound path)) →
    (∃ root ∈ roots, path = l.candidate package root) ∧ path ≠ []

theorem answers_of_firstBelow (hne : ∀ root ∈ roots, root ≠ []) (h : FirstBelow l package roots left path) :
    Answers l package roots left ⟨[], left, .ok path⟩ := by
  have hfind := find?_candidates_eq_some_iff.2 h
  have hmember : ∃ root ∈ roots, path = l.candidate package root := by
    obtain ⟨-, before, root, after, rfl, hpath, -⟩ := h
    exact ⟨root, by simp, hpath⟩
  refine ⟨⟨rfl, rfl⟩, fun other => ?_, fun other => ⟨nofun, ?_⟩, ⟨nofun, ?_⟩, nofun, ?_⟩
  · rw [← find?_candidates_eq_some_iff, hfind, Except.ok.injEq, Option.some.injEq]
  · rintro ⟨-, -, -, -, hmissing⟩
    cases hfind.symm.trans (find?_candidates_eq_none_iff.2 hmissing)
  · rintro rfl
    obtain ⟨root, hm, -⟩ := hmember
    cases hm
  · rintro other (hr | hr)
    · obtain rfl := Except.ok.inj hr
      obtain ⟨root, hm, hpath⟩ := hmember
      exact ⟨⟨root, hm, hpath⟩, hpath ▸ candidate_ne_nil (hne root hm)⟩
    · cases hr

theorem answers_of_missing {first : Path} {rest : List Path} (hne : first ≠ [])
    (h : Missing l package (first :: rest) left) : Answers l package (first :: rest) left
      ⟨[], left, .error (Failure.ofCause (.docFileNotFound (l.candidate package first)))⟩ := by
  have hnone := find?_candidates_eq_none_iff.2 h
  refine ⟨⟨rfl, rfl⟩, fun other => ⟨nofun, fun hfound => ?_⟩, fun other => ⟨?_, ?_⟩, ⟨?_, nofun⟩, ?_, ?_⟩
  · cases (find?_candidates_eq_some_iff.2 hfound).symm.trans hnone
  · intro hr
    cases hr
    exact ⟨first, rest, rfl, rfl, h⟩
  · rintro ⟨first', rest', hroots, rfl, -⟩
    obtain ⟨rfl, -⟩ := List.cons.inj hroots
    rfl
  · rintro ⟨f, hr, hkind⟩
    obtain rfl := Except.error.inj hr
    cases hkind
  · intro f hr
    exact Or.inl ⟨_, (Except.error.inj hr).symm⟩
  · rintro other (hr | hr)
    · cases hr
    · cases hr
      exact ⟨⟨first, List.mem_cons_self, rfl⟩, candidate_ne_nil hne⟩

theorem answers_of_nil : Answers l package [] left
    ⟨[], left, .error (Failure.ofCause (.noWorkspaceRoot l.rootLine))⟩ := by
  refine ⟨⟨rfl, rfl⟩, fun other => ⟨nofun, ?_⟩, fun other => ⟨nofun, nofun⟩, ⟨fun _ => rfl, fun _ => ⟨_, rfl, rfl⟩⟩,
    ?_, ?_⟩
  · rintro ⟨-, before, root, after, hnil, -⟩
    simp at hnil
  · intro f hr
    obtain rfl := Except.error.inj hr
    exact Or.inr rfl
  · rintro other (hr | hr) <;> cases hr

theorem answers_of_lists (hp : Prints launch l w left output) (hr : Lists output roots) :
    Answers l package roots left (l.findDocFile launch package w) := by
  cases hfind : (l.candidates package roots).find? left.isFile with
  | some path =>
    have hfirst := find?_candidates_eq_some_iff.1 hfind
    rw [findDocFile_of_ends (.found hp hr hfirst)]
    exact answers_of_firstBelow (fun _ => hr.ne_nil) hfirst
  | none =>
    have hmissing := find?_candidates_eq_none_iff.1 hfind
    cases roots with
    | nil =>
      rw [findDocFile_of_ends (.noRoots hp hr)]
      exact answers_of_nil
    | cons first rest =>
      rw [findDocFile_of_ends (.missing hp hr hmissing)]
      exact answers_of_missing (hr.ne_nil List.mem_cons_self) hmissing

/-- **The first root that has the doc file wins, and no path is invented.** If the root command succeeds, its output
lists one sequence of roots, and the search gives what `Answers` tells of them. If it is not started or does not succeed,
or there is none, the search fails for a cause of no kind. -/
theorem first_root_wins (launch : Launcher) (l : Locate) (package : Text) (w : World) :
    (∀ left output, Prints launch l w left output →
      ∃ roots, (∀ listed, Lists output listed ↔ listed = roots) ∧
        Answers l package roots left (l.findDocFile launch package w)) ∧
    ((¬ ∃ left output, Prints launch l w left output) →
      ∃ f, (l.findDocFile launch package w).result = .error f ∧ f.cause.kind? = none) := by
  constructor
  · intro left output hp
    exact ⟨rootsIn output, fun listed => lists_iff, answers_of_lists hp (lists_iff.2 rfl)⟩
  · intro hnot
    obtain ⟨o, ho⟩ := exists_ends launch l package w
    rw [findDocFile_of_ends ho]
    cases ho with
    | noCommand | refused | failed => exact ⟨_, rfl, rfl⟩
    | noRoots hp | found hp | missing hp => exact absurd ⟨_, _, hp⟩ hnot

/-- colons side by side and at the end bring no roots, and white space inside the list belongs to one -/
example : rootsIn " ::/a: /b::\n".toList = ["/a".toList, " /b".toList] := by decide

end Locate
end RunnableDocs
