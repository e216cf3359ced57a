/-
Why the programs of a source cannot be found.

`Program.Fault markers source c` tells the three reasons, the later ones only where the earlier ones do not hold: no
line has the open marker; the text behind the first one has no close marker; or there is a comment, and the first line
of it that is not blank starts with a tab. `Program.ofSource_eq_error_iff` states that finding the programs fails just
so, whatever extensions are looked for.

A doc file is read and parsed without any effect (`DocFile.parse_eq`). `parse_failures_do_nothing` puts this together: a
run of a doc file that cannot be read, or whose source has a fault, is nothing but that failure.
-/
import RunnableDocs.Package
import RunnableDocs.Proofs.Enclosure
import RunnableDocs.Proofs.Extraction
import RunnableDocs.Proofs.Layout

namespace RunnableDocs

open Comment (ClosesAt Encloses OpensAt lineAt?)
open Paragraph (Covers blocks isBlank ofRun startsWithTab)
open RunDirectory (Provider)
open Text (AreLines FirstAt IsFull lines splitAt?)

/-! ## Words in glued lines -/

namespace Text

/-- a word without a line feed stands before a line feed or behind it -/
theorem infix_of_infix_append {word b t : Text} (hw : '\n' ∉ word) (h : word <:+: b ++ '\n' :: t) :
    word <:+: b ∨ word <:+: t := by
  obtain ⟨s, u, he⟩ := h
  rcases List.append_eq_append_iff.1 he with ⟨a, hb, -⟩ | ⟨a, hs, hu⟩
  · exact Or.inl ⟨s, a, hb.symm⟩
  · cases a with
    | nil => exact Or.inl ⟨s, [], by simpa using hs⟩
    | cons c a =>
      obtain ⟨rfl, rfl⟩ := List.cons.inj hu
      rcases List.append_eq_append_iff.1 hs with ⟨d, -, hword⟩ | ⟨d, -, hrest⟩
      · exact absurd (by rw [hword]; simp) hw
      · cases d with
        | nil => exact absurd (by rw [← List.nil_append word, ← hrest]; simp) hw
        | cons e d =>
          obtain ⟨-, rfl⟩ := List.cons.inj hrest
          exact Or.inr ⟨d, u, rfl⟩

/-- a word within a line stands in glued lines exactly if it stands in one of them; the last may lack its line feed -/
theorem infix_flatten_iff {word : Text} (hne : word ≠ []) (hw : '\n' ∉ word) {ls : List Text}
    (h : ∀ l ∈ ls.dropLast, l.getLast? = some '\n') : word <:+: ls.flatten ↔ ∃ l ∈ ls, word <:+: l := by
  refine ⟨fun hin => ?_, fun ⟨l, hl, hin⟩ => hin.trans (List.infix_of_mem_flatten hl)⟩
  induction ls with
  | nil => simp [hne] at hin
  | cons l ls ih =>
    cases ls with
    | nil => exact ⟨l, List.mem_cons_self, by simpa using hin⟩
    | cons m ls =>
      rw [List.dropLast_cons_cons, List.forall_mem_cons] at h
      obtain ⟨b, rfl⟩ := List.getLast?_eq_some_iff.1 h.1
      rw [List.flatten_cons, List.append_assoc, List.singleton_append] at hin
      rcases infix_of_infix_append hw hin with hb | hrest
      · exact ⟨b ++ ['\n'], List.mem_cons_self, hb.trans (List.infix_append' [] b ['\n'])⟩
      · obtain ⟨x, hx, hin⟩ := ih h.2 hrest
        exact ⟨x, List.mem_cons_of_mem _ hx, hin⟩

end Text

/-! ## Comments that are not there -/

namespace Comment

theorem bodyOf?_eq_none_iff {marker : Text} {tail : List Text} :
    bodyOf? marker tail = none ↔ ∀ l ∈ tail, ¬ marker <:+: l := by
  induction tail with
  | nil => simp [bodyOf?]
  | cons line more ih =>
    rw [bodyOf?, List.forall_mem_cons]
    cases hs : splitAt? marker line with
    | some parts =>
      have hin : marker <:+: line := ⟨parts.1, parts.2, (Text.splitAt?_append hs).symm⟩
      simp [hin]
    | none =>
      have hline := Text.splitAt?_eq_none_iff.1 hs
      simp [hline, ih]

theorem ofLines_eq_error_iff {markers : Markers} {n : ℕ} {ls : List Text} {c : Cause} :
    ofLines markers n ls = .error c ↔
      ((∀ l ∈ ls, ¬ markers.opening <:+: l) ∧ c = .missingOpen markers.opening) ∨
        ∃ opened tail, OpensAt markers.opening n ls opened tail ∧ (∀ l ∈ tail, ¬ markers.closing <:+: l) ∧
          c = .missingClose opened markers.closing := by
  induction ls generalizing n with
  | nil =>
    constructor
    · intro h
      exact Or.inl ⟨by simp, (Except.error.inj h).symm⟩
    · rintro (⟨-, rfl⟩ | ⟨opened, tail, ⟨header, found, rest, before, after, h, -⟩, -⟩)
      · rfl
      · simp at h
  | cons line more ih =>
    rw [ofLines]
    cases hs : splitAt? markers.opening line with
    | none =>
      have hline := Text.splitAt?_eq_none_iff.1 hs
      simp only [opensAt_cons_iff hline, List.forall_mem_cons, hline, not_false_eq_true, true_and]
      exact ih
    | some parts =>
      obtain ⟨before, after⟩ := parts
      have hfirst := Text.splitAt?_eq_some_iff.1 hs
      have hin : markers.opening <:+: line := ⟨before, after, hfirst.1.symm⟩
      simp only [opensAt_here_iff hfirst, List.forall_mem_cons, hin, not_true_eq_false, false_and, false_or]
      cases hb : bodyOf? markers.closing (after :: more) with
      | some body =>
        constructor
        · intro h
          cases h
        · rintro ⟨opened, tail, ⟨-, rfl⟩, hno, -⟩
          rw [bodyOf?_eq_none_iff.2 hno] at hb
          cases hb
      | none =>
        constructor
        · intro h
          exact ⟨n, after :: more, ⟨rfl, rfl⟩, bodyOf?_eq_none_iff.1 hb, (Except.error.inj h).symm⟩
        · rintro ⟨opened, tail, ⟨rfl, rfl⟩, -, rfl⟩
          rfl

/-- behind an open marker that stands within a line, all but the last line end in a line feed -/
theorem OpensAt.ends_of_dropLast {markers : Markers} (hm : markers.WithinLine) {source : Text} {opened : ℕ}
    {tail : List Text} (h : OpensAt markers.opening 1 (lines source) opened tail) :
    ∀ l ∈ tail.dropLast, l.getLast? = some '\n' := by
  obtain ⟨header, line, more, before, after, hsrc, -, -, hfirst, rfl⟩ := h
  have hls : AreLines (line :: more) := by
    have := Text.areLines_lines source
    rw [hsrc] at this
    exact this.drop_append
  cases more with
  | nil => simp
  | cons m more =>
    have hfull := hls.isFull_of_mem_dropLast
    rw [List.dropLast_cons_cons, List.forall_mem_cons] at hfull ⊢
    have hafter : IsFull after := isFull_behind hm.opening_ne_nil hm.opening_line hfull.1 hfirst.1
    exact ⟨hafter.getLast?, fun l hl => (hfull.2 l hl).getLast?⟩

/-- **There is no comment** exactly if no line has the open marker, or nothing behind the first one is a close
marker. -/
theorem ofSource_eq_error_iff {markers : Markers} (hm : markers.WithinLine) {source : Text} {c : Cause} :
    ofSource markers source = .error c ↔
      ((∀ l ∈ lines source, ¬ markers.opening <:+: l) ∧ c = .missingOpen markers.opening) ∨
        ∃ opened tail, OpensAt markers.opening 1 (lines source) opened tail ∧ ¬ markers.closing <:+: tail.flatten ∧
          c = .missingClose opened markers.closing := by
  have hglued : ∀ {opened tail}, OpensAt markers.opening 1 (lines source) opened tail →
      ((∀ l ∈ tail, ¬ markers.closing <:+: l) ↔ ¬ markers.closing <:+: tail.flatten) := by
    intro opened tail h
    rw [Text.infix_flatten_iff hm.closing_ne_nil hm.closing_line (h.ends_of_dropLast hm)]
    simp
  rw [ofSource, ofLines_eq_error_iff]
  refine or_congr_right (exists_congr fun opened => exists_congr fun tail => and_congr_right fun h => ?_)
  rw [hglued h]

end Comment

/-! ## Faults of a source -/

namespace Program

/-- why the programs of a source cannot be found -/
inductive Fault (markers : Markers) (source : Text) : Cause → Prop
  /-- no line has the open marker -/
  | notOpened (h : ∀ l ∈ lines source, ¬ markers.opening <:+: l) : Fault markers source (.missingOpen markers.opening)
  /-- the text behind the first open marker, which is on line `opened`, has no close marker -/
  | notClosed {opened : ℕ} {tail : List Text} (hopen : OpensAt markers.opening 1 (lines source) opened tail)
      (h : ¬ markers.closing <:+: tail.flatten) : Fault markers source (.missingClose opened markers.closing)
  /-- the first line of the comment that is not blank starts with a tab -/
  | leadingCode {opened : ℕ} {inner gap rest : List Text} {cut line : Text}
      (hcomment : Encloses markers source opened inner cut)
      (hbody : lines (inner.flatten ++ cut) = gap ++ line :: rest) (hgap : ∀ l ∈ gap, isBlank l = true)
      (hline : isBlank line = false) (htab : startsWithTab line = true) :
      Fault markers source (.codeWithoutDeclaration (opened + gap.length))

/-- the blank lines at the start of some lines, and what comes behind them -/
theorem split_at_solid {gap rest : List Text} {line : Text} (hgap : ∀ l ∈ gap, isBlank l = true)
    (hline : isBlank line = false) :
    (gap ++ line :: rest).takeWhile isBlank = gap ∧ (gap ++ line :: rest).dropWhile isBlank = line :: rest := by
  rw [List.takeWhile_append_of_pos hgap, List.dropWhile_append_of_pos hgap]
  simp [hline]

/-- the first paragraph starts with a tab exactly if the first line that is not blank does, and starts on that line -/
theorem ofParagraphs_blocks_eq_error_iff {extensions : List Text} {body : Text} {n : ℕ} {c : Cause} :
    ofParagraphs extensions (blocks body n) = .error c ↔
      ∃ gap line rest, lines body = gap ++ line :: rest ∧ (∀ l ∈ gap, isBlank l = true) ∧ isBlank line = false ∧
        startsWithTab line = true ∧ c = .codeWithoutDeclaration (n + gap.length) := by
  have hcovers := Paragraph.covers_blocks body n
  generalize blocks body n = ps at hcovers
  generalize lines body = ls at hcovers
  cases hcovers with
  | blank hblank =>
    constructor
    · intro h
      cases h
    · rintro ⟨gap, line, rest, rfl, -, hline, -, -⟩
      rw [hblank line (by simp)] at hline
      cases hline
  | @run _ gap first more rest ps hgap hfirst hrest =>
    rw [ofParagraphs_cons, Paragraph.startsWithTab_ofRun hfirst]
    constructor
    · intro h
      split_ifs at h with htab
      exact ⟨gap, first, more ++ rest, by simp, hgap, hfirst, htab, (Except.error.inj h).symm⟩
    · rintro ⟨gap', line, rest', hls, hgap', hline, htab, rfl⟩
      -- the lines are cut in the same place
      rw [List.append_assoc, List.cons_append] at hls
      obtain ⟨hblank, hsolid⟩ := @split_at_solid gap (more ++ rest) first hgap hfirst
      obtain ⟨hblank', hsolid'⟩ := @split_at_solid gap' rest' line hgap' hline
      rw [hls] at hblank hsolid
      obtain rfl : gap = gap' := hblank.symm.trans hblank'
      obtain ⟨rfl, -⟩ := List.cons.inj (hsolid.symm.trans hsolid')
      rw [if_pos htab]
      rfl

/-- the programs are missed if the comment is, or if its first paragraph cannot be named -/
theorem ofSource_eq_error_cases {markers : Markers} {extensions : List Text} {source : Text} {c : Cause} :
    ofSource markers extensions source = .error c ↔
      Comment.ofSource markers source = .error c ∨ ∃ comment, Comment.ofSource markers source = .ok comment ∧
        ofParagraphs extensions (blocks comment.body comment.firstLine) = .error c := by
  unfold ofSource
  cases Comment.ofSource markers source with
  | error e => simp [bind, Except.bind]
  | ok comment => simp [bind, Except.bind]

/-- **Finding the programs of a source fails exactly for its faults**, whatever the extensions are. -/
theorem ofSource_eq_error_iff {markers : Markers} (hm : markers.WithinLine) {extensions : List Text} {source : Text}
    {c : Cause} : ofSource markers extensions source = .error c ↔ Fault markers source c := by
  rw [ofSource_eq_error_cases]
  constructor
  · rintro (hnone | ⟨comment, hcomment, hps⟩)
    · rcases (Comment.ofSource_eq_error_iff hm).1 hnone with ⟨h, rfl⟩ | ⟨opened, tail, hopen, h, rfl⟩
      · exact .notOpened h
      · exact .notClosed hopen h
    · obtain ⟨inner, cut, henc, hbody⟩ := Comment.ofSource_eq_ok_iff.1 hcomment
      rw [hbody] at hps
      obtain ⟨gap, line, rest, hls, hgap, hline, htab, rfl⟩ := ofParagraphs_blocks_eq_error_iff.1 hps
      exact .leadingCode henc hls hgap hline htab
  · intro h
    cases h with
    | notOpened h => exact Or.inl ((Comment.ofSource_eq_error_iff hm).2 (Or.inl ⟨h, rfl⟩))
    | @notClosed opened tail hopen h =>
      exact Or.inl ((Comment.ofSource_eq_error_iff hm).2 (Or.inr ⟨opened, tail, hopen, h, rfl⟩))
    | @leadingCode opened inner gap rest cut line henc hls hgap hline htab =>
      refine Or.inr ⟨⟨inner.flatten ++ cut, opened⟩, Comment.ofSource_eq_ok_iff.2 ⟨inner, cut, henc, rfl⟩, ?_⟩
      exact ofParagraphs_blocks_eq_error_iff.2 ⟨gap, line, rest, hls, hgap, hline, htab, rfl⟩

end Program

/-! ## Doc files -/

namespace DocFile

/-- **Reading and parsing a doc file has no effect**: nothing is reported and the world is left as it is. -/
theorem parse_eq (docFile : Path) (markers : Markers) (registry : Registry) (w : World) :
    parse docFile markers registry w =
      ⟨[], w, match World.readText docFile w with
        | .error e => .error (Failure.during (.readFile docFile) e)
        | .ok source =>
          match Program.ofSource markers registry.extensions source with
          | .error c => .error (Failure.during (.parseFile docFile) c)
          | .ok programs => .ok programs⟩ := by
  unfold parse
  cases hr : World.readText docFile w with
  | error e =>
    have hread : ((Action.inspect (World.readText docFile)).during (.readFile docFile) w).result =
        .error (Failure.during (.readFile docFile) e) := by
      simp [Action.during, Action.inspect, hr, Except.mapError, Failure.ofSystem]
    rw [Action.bind_of_error hread]
    rfl
  | ok source =>
    have hread : ((Action.inspect (World.readText docFile)).during (.readFile docFile) w).result = .ok source := by
      simp [Action.during, Action.inspect, hr, Except.mapError]
    rw [Action.bind_of_ok hread]
    cases hs : Program.ofSource markers registry.extensions source with
    | error c => simp [Action.during, Action.inspect, Action.ofResult, hs, Except.mapError]
    | ok programs => simp [Action.during, Action.inspect, Action.ofResult, hs, Except.mapError]

/-- a run of a doc file that is not parsed is nothing but that failure -/
theorem run_of_parse_error {docFile : Path} {config : Config} {registry : Registry} {w : World} {f : Failure}
    (h : (parse docFile config.markers registry w).result = .error f) (launch : Launcher) (dir : Option Path)
    (temporary : Provider) : run launch docFile dir config registry temporary w = ⟨[], w, .error f⟩ := by
  rw [run, Action.bind_of_error h, parse_eq]

/-- a run of a doc file reports that it is parsed, and only then goes on to the batch, in the world as it was -/
theorem run_of_parse_ok {docFile : Path} {config : Config} {registry : Registry} {w : World} {programs : List Program}
    (h : (parse docFile config.markers registry w).result = .ok programs) (launch : Launcher) (dir : Option Path)
    (temporary : Provider) :
    run launch docFile dir config registry temporary w =
      let batch := Batch.run launch registry programs dir config.limit temporary w
      ⟨.parsed docFile programs.length :: batch.events, batch.world,
        batch.result.map fun _ => ⟨docFile, programs.length⟩⟩ := by
  rw [run, Action.bind_of_ok h, parse_eq, @Action.bind_of_ok _ _ _ _ _ () rfl]
  simp only [Action.report, List.nil_append]
  cases hb : (Batch.run launch registry programs dir config.limit temporary w).result with
  | error f =>
    rw [Action.bind_of_error hb]
    rfl
  | ok _ =>
    rw [Action.bind_of_ok hb]
    simp [Pure.pure, Action.pure, Except.map]

/-- **Parse failures do nothing.** A run of a doc file that cannot be read, or is no text, is that failure alone. If it
holds the text `source`, then parsing fails exactly for the faults of `source`, and then the run is that failure alone:
no event, and the world as it was, whatever the launcher, the strategies and the directory are, so that none of them has
been used. Otherwise the batch starts in the world as it was, behind the report that the whole file is parsed. The line
of a fault is a line of `source`: that is where the lines of a comment stand. -/
theorem parse_failures_do_nothing (launch : Launcher) (docFile : Path) (dir : Option Path) (config : Config)
    (registry : Registry) (temporary : Provider) (w : World) (hm : config.markers.WithinLine) :
    (∀ e, World.readText docFile w = .error e →
      run launch docFile dir config registry temporary w = ⟨[], w, .error (Failure.during (.readFile docFile) e)⟩) ∧
    ∀ source, World.readText docFile w = .ok source →
      (∀ f, (parse docFile config.markers registry w).result = .error f ↔
        ∃ c, Program.Fault config.markers source c ∧ f = Failure.during (.parseFile docFile) c) ∧
      (∀ c, Program.Fault config.markers source c →
        run launch docFile dir config registry temporary w =
          ⟨[], w, .error (Failure.during (.parseFile docFile) c)⟩) ∧
      (∀ programs, (parse docFile config.markers registry w).result = .ok programs →
        run launch docFile dir config registry temporary w =
          let batch := Batch.run launch registry programs dir config.limit temporary w
          ⟨.parsed docFile programs.length :: batch.events, batch.world,
            batch.result.map fun _ => ⟨docFile, programs.length⟩⟩) ∧
      (∀ opened inner cut, Encloses config.markers source opened inner cut →
        ∀ j l, 0 < j → (lines (inner.flatten ++ cut))[j]? = some l →
          lineAt? source (opened + inner.length) cut (opened + j) = some l) := by
  refine ⟨fun e he => run_of_parse_error (by rw [parse_eq, he]) launch dir temporary, fun source hsource => ?_⟩
  have hparse : ∀ f, (parse docFile config.markers registry w).result = .error f ↔
      ∃ c, Program.Fault config.markers source c ∧ f = Failure.during (.parseFile docFile) c := by
    intro f
    simp only [parse_eq, hsource, ← @Program.ofSource_eq_error_iff _ hm registry.extensions]
    cases Program.ofSource config.markers registry.extensions source with
    | error c => simp [eq_comm]
    | ok programs => simp
  refine ⟨hparse, fun c hc => ?_, fun programs hp => run_of_parse_ok hp launch dir temporary, ?_⟩
  · exact run_of_parse_error ((hparse _).2 ⟨c, hc, rfl⟩) launch dir temporary
  · intro opened inner cut henc j l hj hl
    rw [henc.lines_body hm] at hl
    exact henc.lineAt?_of_body hj hl

/-- a comment that begins with two blank lines of different forms and then with code -/
def leadingSource : Text := "x /*\n\r\n\ttouch ran\n\nrun.sh\n*/\n".toList

/-- a world with nothing but a doc file -/
def docWorld : World :=
  { entries := [{ place := ["doc.go".toList], entry := .file (Text.encode leadingSource) 0o644 }] }

theorem parse_failures_do_nothing_leading :
    let launch : Launcher := fun _ _ w => (w, .error .noEntry)
    Markers.WithinLine ({} : Config).markers ∧ World.readText "/doc.go".toList docWorld = .ok leadingSource ∧
      Program.Fault {} leadingSource (.codeWithoutDeclaration 3) ∧
      run launch "/doc.go".toList none {} Registry.builtin .system docWorld =
        ⟨[], docWorld, .error (Failure.during (.parseFile "/doc.go".toList) (Cause.codeWithoutDeclaration 3))⟩ := by
  intro launch
  have hm : Markers.WithinLine ({} : Config).markers := by constructor <;> decide
  have hread : World.readText "/doc.go".toList docWorld = .ok leadingSource := by decide +kernel
  have hfault : Program.Fault {} leadingSource (.codeWithoutDeclaration 3) := by
    have herror : Program.ofSource {} [] leadingSource = .error (.codeWithoutDeclaration 3) := by decide +kernel
    exact (Program.ofSource_eq_error_iff hm).1 herror
  obtain ⟨-, hrun, -⟩ :=
    (parse_failures_do_nothing launch "/doc.go".toList none {} Registry.builtin .system docWorld hm).2 _ hread
  exact ⟨hm, hread, hfault, hrun _ hfault⟩

end DocFile
end RunnableDocs
