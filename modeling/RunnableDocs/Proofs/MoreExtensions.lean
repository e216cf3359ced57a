/-
More extensions find more programs, and lose none.

A text that declares a file name for some extensions declares one for more of them too: the same, or the same with a
longer extension if one of the new ones goes on behind the full stop (`Declaration.ofText?_of_subset`). Whether a
paragraph is code, and whether what is behind it is an output, does not depend on the extensions at all. So the program
at a place is there again under more extensions (`Program.at?_of_subset`), whatever else is found then, and with whatever
outputs (`more_extensions_keep_programs`).
-/
import RunnableDocs.Proofs.Extraction

namespace RunnableDocs

open Paragraph (startsWithTab)

variable {extensions extensions' : List Text}

/-! ## Declarations -/

theorem longestAt?_of_subset (h : extensions ⊆ extensions') {text extension : Text}
    (he : longestAt? extensions text = some extension) :
    ∃ longest, longestAt? extensions' text = some longest ∧ extension <+: longest := by
  obtain ⟨hm, hp, -⟩ := longestAt?_eq_some_iff.1 he
  cases hl : longestAt? extensions' text with
  | none => exact absurd hp (longestAt?_eq_none_iff.1 hl extension (h hm))
  | some longest =>
    obtain ⟨-, hlp, hmax⟩ := longestAt?_eq_some_iff.1 hl
    exact ⟨longest, rfl, List.prefix_of_prefix_length_le hp hlp (hmax extension (h hm) hp)⟩

namespace Declaration

/-- a listed extension longer than the one that was taken stands in the text too, behind the same full stop -/
def Lengthened (extensions : List Text) (text : Text) (d : Declaration) : Prop :=
  ∃ word longer, d.filename = word ++ '.' :: d.extension ∧ longer ∈ extensions ∧
    d.extension.length < longer.length ∧ word ++ '.' :: longer <+: text

/-- **Declarations under more extensions.** The file name stays or grows, and it grows exactly if a longer extension is
listed that stands there. -/
theorem ofText?_of_subset (h : extensions ⊆ extensions') {text : Text} {d : Declaration}
    (hd : ofText? extensions text = some d) :
    ∃ d', ofText? extensions' text = some d' ∧ d.filename <+: d'.filename ∧
      (d'.filename = d.filename ↔ ¬ d.Lengthened extensions' text) ∧
      (d'.filename = d.filename → d' = d) := by
  obtain ⟨word, rest, hne, hw, rfl, hlongest, hfile⟩ := ofText?_eq_some_iff.1 hd
  obtain ⟨longest, hl, hstart⟩ := longestAt?_of_subset h hlongest
  obtain ⟨hm, hp, hmax⟩ := longestAt?_eq_some_iff.1 hl
  -- the file name stays if and only if the extension does
  have hsame : word ++ '.' :: longest = d.filename ↔ longest = d.extension := by
    rw [hfile, List.append_right_inj, List.cons.injEq, and_iff_right rfl]
  refine ⟨⟨word ++ '.' :: longest, longest⟩, ofText?_eq_some_iff.2 ⟨word, rest, hne, hw, rfl, hl, rfl⟩, ?_, ?_, ?_⟩
  · rw [hfile]
    exact (List.prefix_append_right_inj word).2 ((List.prefix_cons_inj '.').2 hstart)
  · rw [hsame]
    constructor
    · rintro rfl ⟨word', longer, hfile', hlonger, hlength, hbehind⟩
      obtain rfl : word' = word := List.append_cancel_right (hfile'.symm.trans hfile)
      have hrest : longer <+: rest := by
        rwa [List.prefix_append_right_inj, List.prefix_cons_inj] at hbehind
      exact absurd (hmax longer hlonger hrest) (Nat.not_le.2 hlength)
    · intro hnot
      by_contra hchanged
      have hlength : d.extension.length < longest.length :=
        lt_of_le_of_ne hstart.length_le fun he => hchanged (hstart.eq_of_length he).symm
      have hbehind : word ++ '.' :: longest <+: word ++ '.' :: rest :=
        (List.prefix_append_right_inj word).2 ((List.prefix_cons_inj '.').2 hp)
      exact hnot ⟨word, longest, hfile, hm, hlength, hbehind⟩
  · intro he
    obtain rfl : longest = d.extension := hsame.1 he
    rw [← hfile]

end Declaration

/-! ## Programs -/

namespace Program

theorem at?_eq_some_iff {ps : List Paragraph} {i : ℕ} {p : Program} :
    at? extensions ps (i + 1) = some p ↔ ∃ before code d, ps[i]? = some before ∧ ps[i + 1]? = some code ∧
      startsWithTab code.text = true ∧ Declaration.ofText? extensions before.text = some d ∧
      p = ⟨code.lineStart, code.lineEnd, d.filename, d.extension, untab code.text, outputAt? ps (i + 1)⟩ := by
  constructor
  · intro h
    simp only [at?] at h
    split at h
    · rename_i before code hb hc
      split_ifs at h with ht
      obtain ⟨d, hd, rfl⟩ := Option.map_eq_some_iff.1 h
      exact ⟨before, code, d, hb, hc, ht, hd, rfl⟩
    · cases h
  · rintro ⟨before, code, d, hb, hc, ht, hd, rfl⟩
    simp [at?, hb, hc, ht, hd]

/-- the programs of some paragraphs, each with the place of its code among them -/
def placed (extensions : List Text) (ps : List Paragraph) : List (ℕ × Program) :=
  (List.range ps.length).filterMap fun i => (at? extensions ps i).map (i, ·)

/-- the program at a place, found with other extensions as well: all is as it was, except that the file name may go on
with a longer extension -/
structure KeptBy (extensions : List Text) (ps : List Paragraph) (old new : ℕ × Program) : Prop where
  place : new.1 = old.1
  lineStart : new.2.lineStart = old.2.lineStart
  lineEnd : new.2.lineEnd = old.2.lineEnd
  code : new.2.code = old.2.code
  output : new.2.output = old.2.output
  filename : old.2.filename <+: new.2.filename
  /-- the file name grows only by a longer extension that stands in the declaration -/
  filename_eq_iff : new.2.filename = old.2.filename ↔ ∀ declaration, ps[old.1 - 1]? = some declaration →
    ¬ Declaration.Lengthened extensions declaration.text ⟨old.2.filename, old.2.language⟩
  language : new.2.filename = old.2.filename → new.2.language = old.2.language

/-- what is found at a place is found there with more extensions -/
theorem at?_of_subset (h : extensions ⊆ extensions') {ps : List Paragraph} {i : ℕ} {p : Program}
    (hp : at? extensions ps i = some p) :
    ∃ p', at? extensions' ps i = some p' ∧ KeptBy extensions' ps (i, p) (i, p') := by
  cases i with
  | zero => cases hp
  | succ i =>
    obtain ⟨before, code, d, hb, hc, ht, hd, rfl⟩ := at?_eq_some_iff.1 hp
    obtain ⟨d', hd', hstart, hiff, hsame⟩ := Declaration.ofText?_of_subset h hd
    refine ⟨_, at?_eq_some_iff.2 ⟨before, code, d', hb, hc, ht, hd', rfl⟩, ?_⟩
    exact
      { place := rfl
        lineStart := rfl
        lineEnd := rfl
        code := rfl
        output := rfl
        filename := hstart
        filename_eq_iff := by simpa [hb] using hiff
        language := fun he => by rw [hsame he] }

theorem ofParagraphs_eq_placed (extensions : List Text) (p : Paragraph) (ps : List Paragraph) :
    ofParagraphs extensions (p :: ps) =
      if startsWithTab p.text then .error (.codeWithoutDeclaration p.lineStart)
      else .ok ((placed extensions (p :: ps)).map Prod.snd) := by
  have hplaced : (placed extensions (p :: ps)).map Prod.snd =
      (List.range (p :: ps).length).filterMap (at? extensions (p :: ps)) := by
    simp [placed, List.map_filterMap, Function.comp_def]
  rw [hplaced, filterMap_at?_cons, ofParagraphs_cons, after_eq_atPlaces]

/-- what one choice finds at each place, and the other one finds there again, is found again in the same order -/
theorem exists_sublist_filterMap {ι α β : Type} {f : ι → Option α} {g : ι → Option β} {R : α → β → Prop}
    (h : ∀ i a, f i = some a → ∃ b, g i = some b ∧ R a b) (is : List ι) :
    ∃ common, List.Sublist common (is.filterMap g) ∧ List.Forall₂ R (is.filterMap f) common := by
  induction is with
  | nil => exact ⟨[], .slnil, .nil⟩
  | cons i is ih =>
    obtain ⟨common, hsub, hrel⟩ := ih
    cases hf : f i with
    | none =>
      refine ⟨common, ?_, by rwa [List.filterMap_cons_none hf]⟩
      cases hg : g i with
      | none => rwa [List.filterMap_cons_none hg]
      | some b =>
        rw [List.filterMap_cons_some hg]
        exact hsub.cons b
    | some a =>
      obtain ⟨b, hg, hab⟩ := h i a hf
      refine ⟨b :: common, ?_, ?_⟩
      · rw [List.filterMap_cons_some hg]
        exact hsub.cons_cons b
      · rw [List.filterMap_cons_some hf]
        exact .cons hab hrel

theorem placed_of_subset (h : extensions ⊆ extensions') (ps : List Paragraph) :
    ∃ common, List.Sublist common (placed extensions' ps) ∧
      List.Forall₂ (KeptBy extensions' ps) (placed extensions ps) common := by
  refine exists_sublist_filterMap (fun i x hx => ?_) (List.range ps.length)
  obtain ⟨p, hp, rfl⟩ := Option.map_eq_some_iff.1 hx
  obtain ⟨p', hp', hkept⟩ := at?_of_subset h hp
  exact ⟨(i, p'), by rw [hp', Option.map_some], hkept⟩

/-- **More extensions keep the programs.** With more extensions extraction fails exactly if it failed before, and in the
same way. Otherwise the programs that were found before are all found again, in the same order among those that are
found now: each at the same place, on the same lines, with the same code and the same output. Its file name begins as it
did, and is the same unless one of the extensions that are listed now is longer and stands in the declaration. -/
theorem more_extensions_keep_programs (h : extensions ⊆ extensions') (ps : List Paragraph) :
    (∀ e, ofParagraphs extensions ps = .error e ↔ ofParagraphs extensions' ps = .error e) ∧
    ∀ programs, ofParagraphs extensions ps = .ok programs →
      ∃ programs', ofParagraphs extensions' ps = .ok programs' ∧
        programs = (placed extensions ps).map Prod.snd ∧ programs' = (placed extensions' ps).map Prod.snd ∧
        ∃ common, List.Sublist common (placed extensions' ps) ∧
          List.Forall₂ (KeptBy extensions' ps) (placed extensions ps) common := by
  have hkept := placed_of_subset h ps
  cases ps with
  | nil =>
    refine ⟨fun e => Iff.rfl, fun programs hp => ?_⟩
    obtain rfl := Except.ok.inj hp
    exact ⟨[], rfl, rfl, rfl, hkept⟩
  | cons p ps =>
    rw [ofParagraphs_eq_placed, ofParagraphs_eq_placed]
    by_cases ht : startsWithTab p.text = true
    · rw [if_pos ht, if_pos ht]
      exact ⟨fun e => Iff.rfl, fun programs hp => by cases hp⟩
    · rw [if_neg ht, if_neg ht]
      refine ⟨fun e => by simp, fun programs hp => ?_⟩
      exact ⟨_, rfl, (Except.ok.inj hp).symm, rfl, hkept⟩

/-- paragraphs with three declarations, of which two need more than one extension to be read to their end -/
def widePage : List Paragraph :=
  [⟨1, 1, "a.pyc\n".toList⟩, ⟨3, 3, "\tx\n".toList⟩, ⟨5, 5, "b.go\n".toList⟩, ⟨7, 7, "\ty\n".toList⟩,
    ⟨9, 9, "Output:\n".toList⟩, ⟨11, 11, "\tz\n".toList⟩, ⟨13, 13, "c.py\n".toList⟩, ⟨15, 15, "\tw\n".toList⟩]

/-- one more program is found between the two others, with an output, and the first one gets a longer name -/
theorem more_extensions_keep_programs_between :
    ["py".toList] ⊆ ["go".toList, "py".toList, "pyc".toList] ∧
      ofParagraphs ["py".toList] widePage =
        .ok [⟨3, 3, "a.py".toList, "py".toList, "x\n".toList, none⟩,
          ⟨15, 15, "c.py".toList, "py".toList, "w\n".toList, none⟩] ∧
      ofParagraphs ["go".toList, "py".toList, "pyc".toList] widePage =
        .ok [⟨3, 3, "a.pyc".toList, "pyc".toList, "x\n".toList, none⟩,
          ⟨7, 7, "b.go".toList, "go".toList, "y\n".toList, some "z\n".toList⟩,
          ⟨15, 15, "c.py".toList, "py".toList, "w\n".toList, none⟩] ∧
      ∃ common, List.Sublist common (placed ["go".toList, "py".toList, "pyc".toList] widePage) ∧
        List.Forall₂ (KeptBy ["go".toList, "py".toList, "pyc".toList] widePage) (placed ["py".toList] widePage)
          common := by
  have hsubset : ["py".toList] ⊆ ["go".toList, "py".toList, "pyc".toList] := by decide
  have hfew : ofParagraphs ["py".toList] widePage =
      .ok [⟨3, 3, "a.py".toList, "py".toList, "x\n".toList, none⟩,
        ⟨15, 15, "c.py".toList, "py".toList, "w\n".toList, none⟩] := by decide +kernel
  obtain ⟨-, hkeep⟩ := more_extensions_keep_programs hsubset widePage
  obtain ⟨_, -, -, -, hcommon⟩ := hkeep _ hfew
  exact ⟨hsubset, hfew, by decide +kernel, hcommon⟩

end Program
end RunnableDocs
