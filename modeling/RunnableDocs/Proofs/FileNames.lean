/-
What programs are called, and where their files are.

The file name of a program is a word, a full stop and a known extension (`IsSourceName`). A configuration that is
accepted brings extensions of letters and digits only, so the name is one plain component of a path, and building it
leaves something under the word alone (`IsSourceName.executableName_eq`), which has no full stop. So all that a batch
writes and builds lies directly in the run directory, and no source file that is written replaces what another program,
or the same, has left to be run (`programs_stay_inside`).
-/
import RunnableDocs.Proofs.Child
import RunnableDocs.Proofs.Dispatch
import RunnableDocs.Proofs.Loading

namespace RunnableDocs

open Text (isWord)

/-! ## Known extensions -/

namespace Config

theorem isExtension_of_validate {config : Config} (h : config.validate = .ok ()) :
    ∀ e ∈ config.languages.entries, isExtension e.1 = true :=
  fun e he => ((validate_eq_ok_iff.1 h).languages e he).1

end Config

namespace Registry

/-- every known extension is made of letters and digits -/
def HasPlainExtensions (r : Registry) : Prop :=
  ∀ extension, (r.get? extension).isSome = true → Config.isExtension extension = true

theorem HasPlainExtensions.register {r : Registry} (hr : r.HasPlainExtensions) {extension : Text}
    (he : Config.isExtension extension = true) (strategy : Strategy) :
    (r.register extension strategy).HasPlainExtensions := by
  intro key hknown
  rw [get?_register] at hknown
  split_ifs at hknown with hkey
  · rw [hkey, he]
  · exact hr key hknown

theorem hasPlainExtensions_builtin : builtin.HasPlainExtensions := by
  have hempty : empty.HasPlainExtensions := by
    intro extension hknown
    cases hknown
  exact (hempty.register (by decide) _).register (by decide) _

/-- an accepted configuration brings no other extensions -/
theorem hasPlainExtensions_ofConfig {config : Config} (hvalid : config.validate = .ok ()) :
    (ofConfig config).HasPlainExtensions := by
  have hentries := Config.isExtension_of_validate hvalid
  refine List.foldlRecOn _ _ hasPlainExtensions_builtin fun r hr e he => ?_
  exact hr.register (hentries e he) _

end Registry

/-! ## Names -/

/-- a file name that is a word, a full stop and an extension of letters and digits -/
structure IsSourceName (word extension filename : Text) : Prop where
  word_ne_nil : word ≠ []
  word_chars : ∀ c ∈ word, isWord c = true
  extension_chars : Config.isExtension extension = true
  filename_eq : filename = word ++ '.' :: extension

namespace IsSourceName
variable {word extension filename : Text}

theorem not_mem_word (h : IsSourceName word extension filename) {c : Char} (hc : isWord c = false) : c ∉ word := by
  intro hm
  rw [h.word_chars c hm] at hc
  cases hc

theorem not_mem_extension (h : IsSourceName word extension filename) {c : Char} (hc : c.isAlphanum = false) :
    c ∉ extension := by
  have hall : extension ≠ [] ∧ ∀ c ∈ extension, c.isAlphanum = true := by
    simpa [Config.isExtension] using h.extension_chars
  intro hm
  rw [hall.2 c hm] at hc
  cases hc

theorem isComponent_word (h : IsSourceName word extension filename) : Path.IsComponent word := by
  obtain ⟨hstop, hslash, hnull⟩ := Text.isWord_stop
  have hstop : '.' ∉ word := h.not_mem_word hstop
  exact
    { ne_nil := h.word_ne_nil
      no_slash := h.not_mem_word hslash
      no_null := h.not_mem_word hnull
      ne_dot := fun he => hstop (he ▸ List.mem_cons_self)
      ne_up := fun he => hstop (he ▸ List.mem_cons_self) }

theorem isComponent_filename (h : IsSourceName word extension filename) : Path.IsComponent filename := by
  obtain ⟨c, more, hword⟩ := List.exists_cons_of_ne_nil h.word_ne_nil
  -- the name starts with a character of the word, so it is not made of dots
  have hhead : ∀ rest, filename ≠ '.' :: rest := by
    intro rest he
    rw [h.filename_eq, hword] at he
    have hc := h.word_chars c (by rw [hword]; exact List.mem_cons_self)
    rw [(List.cons.inj he).1, Text.isWord_stop.1] at hc
    cases hc
  have hnot : ∀ {d : Char}, isWord d = false → d.isAlphanum = false → d ≠ '.' → d ∉ filename := by
    intro d hword hextension hstop hm
    rw [h.filename_eq] at hm
    rcases List.mem_append.1 hm with hm | hm
    · exact h.not_mem_word hword hm
    · rcases List.mem_cons.1 hm with hm | hm
      · exact hstop hm
      · exact h.not_mem_extension hextension hm
  exact
    { ne_nil := by rw [h.filename_eq]; exact List.append_ne_nil_of_left_ne_nil h.word_ne_nil _
      no_slash := hnot Text.isWord_stop.2.1 (by decide) (by decide)
      no_null := hnot Text.isWord_stop.2.2 (by decide) (by decide)
      ne_dot := hhead _
      ne_up := hhead _ }

/-- the last full stop of the name is the one before the extension -/
theorem stemOf_eq (h : IsSourceName word extension filename) : Path.stemOf filename = word := by
  have hstop : '.' ∉ extension := h.not_mem_extension (by decide)
  have hdrop : filename.reverse.dropWhile (· ≠ '.') = '.' :: word.reverse := by
    have hpass : ∀ c ∈ extension.reverse, decide (c ≠ '.') = true := by
      intro c hc
      exact decide_eq_true fun he => hstop (he ▸ List.mem_reverse.1 hc)
    rw [h.filename_eq, List.reverse_append, List.reverse_cons, List.append_assoc,
      List.dropWhile_append_of_pos hpass]
    simp
  obtain ⟨c, more, hword⟩ := List.exists_cons_of_ne_nil (mt List.reverse_eq_nil_iff.1 h.word_ne_nil)
  unfold Path.stemOf
  rw [hdrop, hword]
  show (c :: more).reverse = word
  rw [← hword, List.reverse_reverse]

theorem executableName_eq (h : IsSourceName word extension filename) : executableName filename = word := by
  have hcomponent := h.isComponent_filename
  have hfile : Path.fileName? filename = some filename := by
    simp [Path.fileName?, hcomponent.names_eq, hcomponent.ne_up]
  rw [executableName, Path.stem?, hfile, Option.map_some, h.stemOf_eq]
  rfl

/-- what one program leaves to be run is not called like a source file -/
theorem word_ne_filename {word' extension' filename' : Text} (h : IsSourceName word extension filename)
    (h' : IsSourceName word' extension' filename') : word ≠ filename' := by
  intro he
  apply h.not_mem_word Text.isWord_stop.1
  rw [he, h'.filename_eq]
  exact List.mem_append_right word' List.mem_cons_self

end IsSourceName

/-! ## The files of programs -/

namespace Program

theorem isSourceName_of_ofSource {config : Config} (hvalid : config.validate = .ok ()) {markers : Markers}
    {source : Text} {programs : List Program}
    (h : ofSource markers (Registry.ofConfig config).extensions source = .ok programs) {p : Program}
    (hp : p ∈ programs) : ∃ word, IsSourceName word p.language p.filename := by
  obtain ⟨text, d, hd, hfile, hlanguage⟩ := declared_of_ofSource h hp
  obtain ⟨word, rest, hne, hword, -, hlongest, hname⟩ := Declaration.ofText?_eq_some_iff.1 hd
  have hmem := (longestAt?_eq_some_iff.1 hlongest).1
  have hknown := (Table.mem_keys_iff (Registry.ofConfig config) d.extension).1 hmem
  rw [hfile, hlanguage]
  exact ⟨word, hne, hword, Registry.hasPlainExtensions_ofConfig hvalid _ hknown, hname⟩

end Program

namespace Strategy

/-- writing a source file leaves alone what is found under another name in the run directory -/
theorem at?_join_of_writeProgram {s : Setting} (ha : Path.isAbsolute s.workdir = true) {q : Program} {other : Text}
    (hq : Path.IsComponent q.filename) (ho : Path.IsComponent other) (hne : other ≠ q.filename) (w : World) :
    (writeProgram s q w).world.at? (Path.join s.workdir other) = w.at? (Path.join s.workdir other) := by
  have hworld : (writeProgram s q w).world =
      (Action.change (·.write (Path.join s.workdir q.filename) (Text.encode q.code)) w).world := rfl
  rw [hworld, Action.change]
  cases hw : w.write (Path.join s.workdir q.filename) (Text.encode q.code) with
  | error e => rfl
  | ok w' => exact World.at?_join_of_write ha hq ho hne hw

end Strategy

/-- **Programs stay inside their directory, and leave each other's executables alone.** Take any source parsed with the
extensions of the registry of an accepted configuration. The file name of a program is a word, a full stop and an
extension of letters and digits, and what building it leaves is called like the word; joined to the path of any
directory, each of the two leads to an entry of that directory. What building one program leaves is never called like
the source file of a program, be it another one or the same, and so it is not found at the same path; and writing a
source file into a run directory changes nothing at the path where a program that was built is looked for and run. -/
theorem programs_stay_inside {config : Config} (hvalid : config.validate = .ok ()) {markers : Markers} {source : Text}
    {programs : List Program}
    (h : Program.ofSource markers (Registry.ofConfig config).extensions source = .ok programs) :
    (∀ p ∈ programs, ∃ word, IsSourceName word p.language p.filename ∧ executableName p.filename = word ∧
      Path.IsComponent p.filename ∧ Path.IsComponent word ∧
      ∀ dir, Path.IsChild dir p.filename ∧ Path.IsChild dir word) ∧
    ∀ p ∈ programs, ∀ q ∈ programs, executableName p.filename ≠ q.filename ∧
      (∀ dir, Path.join dir (executableName p.filename) ≠ Path.join dir q.filename) ∧
      ∀ s w, Path.isAbsolute s.workdir = true →
        (Strategy.writeProgram s q w).world.at? (Path.join s.workdir (executableName p.filename)) =
          w.at? (Path.join s.workdir (executableName p.filename)) := by
  have hnamed : ∀ p ∈ programs, ∃ word, IsSourceName word p.language p.filename :=
    fun p hp => Program.isSourceName_of_ofSource hvalid h hp
  constructor
  · intro p hp
    obtain ⟨word, hword⟩ := hnamed p hp
    refine ⟨word, hword, hword.executableName_eq, hword.isComponent_filename, hword.isComponent_word, fun dir => ?_⟩
    exact ⟨Path.isChild_of_isComponent hword.isComponent_filename dir,
      Path.isChild_of_isComponent hword.isComponent_word dir⟩
  · intro p hp q hq
    obtain ⟨word, hword⟩ := hnamed p hp
    obtain ⟨word', hword'⟩ := hnamed q hq
    have hne : word ≠ q.filename := hword.word_ne_filename hword'
    rw [hword.executableName_eq]
    refine ⟨hne, fun dir he => hne ?_, fun s w ha => ?_⟩
    · have hnames := congrArg Path.names he
      rw [(Path.isChild_of_isComponent hword.isComponent_word dir).names_eq,
        (Path.isChild_of_isComponent hword'.isComponent_filename dir).names_eq] at hnames
      exact List.singleton_inj.1 (List.append_cancel_left hnames)
    · exact Strategy.at?_join_of_writeProgram ha hword'.isComponent_filename hword.isComponent_word hne w

/-- a configuration with a language of its own that is built -/
def builtConfig : Config := { languages := { entries := [("c11".toList, .buildThenRun ["cc".toList])] } }

/-- two programs of one word; the text of the first declaration goes on behind its extension -/
def builtSource : Text := "/*\na.c11.py\n\n\tp\n\na.go\n\n\tq\n*/".toList

theorem programs_stay_inside_built :
    builtConfig.validate = .ok () ∧
      Program.ofSource {} (Registry.ofConfig builtConfig).extensions builtSource =
        .ok [⟨4, 4, "a.c11".toList, "c11".toList, "p\n".toList, none⟩,
          ⟨8, 8, "a.go".toList, "go".toList, "q\n".toList, none⟩] ∧
      executableName "a.c11".toList ≠ "a.go".toList ∧
      (∀ dir, Path.names (Path.join dir "a.c11".toList) = Path.names dir ++ ["a.c11".toList]) ∧
      ∀ w, (Strategy.writeProgram ⟨"/r".toList, none⟩
        ⟨8, 8, "a.go".toList, "go".toList, "q\n".toList, none⟩ w).world.at? "/r/a".toList =
          w.at? "/r/a".toList := by
  have hvalid : builtConfig.validate = .ok () := by decide +kernel
  have h : Program.ofSource {} (Registry.ofConfig builtConfig).extensions builtSource =
      .ok [⟨4, 4, "a.c11".toList, "c11".toList, "p\n".toList, none⟩,
        ⟨8, 8, "a.go".toList, "go".toList, "q\n".toList, none⟩] := by decide +kernel
  obtain ⟨hinside, hapart⟩ := programs_stay_inside hvalid h
  obtain ⟨word, -, -, -, -, hchild⟩ := hinside _ List.mem_cons_self
  obtain ⟨hne, -, hspared⟩ := hapart _ List.mem_cons_self _ (List.mem_cons_of_mem _ List.mem_cons_self)
  have hpath : Path.join "/r".toList (executableName "a.c11".toList) = "/r/a".toList := by decide
  refine ⟨hvalid, h, hne, fun dir => (hchild dir).1.names_eq, fun w => ?_⟩
  have hsame := hspared ⟨"/r".toList, none⟩ w (by decide)
  rw [hpath] at hsame
  exact hsame

end RunnableDocs
