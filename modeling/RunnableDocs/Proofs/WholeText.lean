/-
The comment of a source, told by the first markers in its whole text.

`Comment.Located markers source r` says what a reader of the whole text would say: `r` is the text between the first
open marker and the first close marker from its end on, with the line of the open marker told by the line feeds before
it; or `r` is the marker that is missed. A marker with a line feed inside it counts as missing, wherever it stands.

`reading_by_lines_is_reading_whole` states that reading line by line gives exactly this, for all markers that are not
empty: they may end in a line feed, overlap, or be the same. A marker that fits into a line is found by one search
(`ofSource_eq_behind`, `bodyOf?_lines_eq_cut`); any other one is in no line at all (`not_infix_of_line`).
-/
import RunnableDocs.Proofs.Cut

namespace RunnableDocs

open Text (AreLines FirstAt FitsLine IsFull IsOpen lines splitAt?)

/-! ## Words that do not fit into a line -/

namespace Text

theorem fitsLine_iff {word : Text} (hne : word ≠ []) : FitsLine word ↔ '\n' ∉ word.dropLast :=
  ⟨FitsLine.within, fun h => ⟨hne, h⟩⟩

/-- a line feed inside a word is behind no line and before no line, so no line has the word -/
theorem not_infix_of_line {word l : Text} (hword : '\n' ∈ word.dropLast) (hl : IsFull l ∨ IsOpen l) :
    ¬ word <:+: l := by
  rintro ⟨before, after, he⟩
  have hne : word ≠ [] := by
    rintro rfl
    cases hword
  -- all of the line but what is behind the last character of the word
  have hsplit : l = (before ++ word.dropLast) ++ (word.getLast hne :: after) :=
    calc l = before ++ word ++ after := he.symm
      _ = before ++ (word.dropLast ++ [word.getLast hne]) ++ after := by rw [List.dropLast_append_getLast hne]
      _ = (before ++ word.dropLast) ++ (word.getLast hne :: after) := by simp
  have hinner := not_mem_of_line_append (hsplit ▸ hl) (List.cons_ne_nil _ _)
  exact hinner (List.mem_append_right before hword)

theorem isFull_or_isOpen_of_mem_lines {t l : Text} (h : l ∈ lines t) : IsFull l ∨ IsOpen l := by
  obtain ⟨before, rest, hsplit⟩ := List.append_of_mem h
  have hlines : AreLines (before ++ l :: rest) := hsplit ▸ areLines_lines t
  exact hlines.drop_append.isFull_or_isOpen

end Text

namespace Comment

theorem bodyOf?_of_broken {closing : Text} (h : '\n' ∈ closing.dropLast) (t : Text) :
    bodyOf? closing (lines t) = none := by
  have hlines : ∀ l ∈ lines t, IsFull l ∨ IsOpen l := fun l => Text.isFull_or_isOpen_of_mem_lines
  generalize lines t = ls at hlines
  induction ls with
  | nil => rfl
  | cons line more ih =>
    rw [List.forall_mem_cons] at hlines
    have hline : splitAt? closing line = none := Text.splitAt?_eq_none_iff.2 (Text.not_infix_of_line h hlines.1)
    rw [bodyOf?, hline, ih hlines.2]
    rfl

theorem ofSource_of_broken {markers : Markers} (h : '\n' ∈ markers.opening.dropLast) (source : Text) :
    ofSource markers source = .error (.missingOpen markers.opening) := by
  have hlines : ∀ l ∈ lines source, IsFull l ∨ IsOpen l := fun l => Text.isFull_or_isOpen_of_mem_lines
  rw [ofSource]
  generalize lines source = ls at hlines
  generalize 1 = n
  induction ls generalizing n with
  | nil => rfl
  | cons line more ih =>
    rw [List.forall_mem_cons] at hlines
    have hline : splitAt? markers.opening line = none :=
      Text.splitAt?_eq_none_iff.2 (Text.not_infix_of_line h hlines.1)
    rw [ofLines, hline]
    exact ih hlines.2 (n + 1)

/-! ## The first markers in the whole text -/

/-- what is found of a comment, told by where the markers stand in the whole text -/
inductive Located (markers : Markers) (source : Text) : Except Cause Comment → Prop
  /-- the open marker has a line feed before its last character, or is nowhere -/
  | notOpened (h : '\n' ∈ markers.opening.dropLast ∨ ¬ markers.opening <:+: source) :
      Located markers source (.error (.missingOpen markers.opening))
  /-- the close marker has a line feed before its last character, or is nowhere behind the first open marker -/
  | notClosed {before rest : Text} (hfits : '\n' ∉ markers.opening.dropLast)
      (hopen : FirstAt markers.opening source before rest)
      (h : '\n' ∈ markers.closing.dropLast ∨ ¬ markers.closing <:+: rest) :
      Located markers source (.error (.missingClose (1 + before.count '\n') markers.closing))
  /-- `body` stands between the first open marker and the first close marker behind that -/
  | enclosed {before rest body trailer : Text} (hfits : '\n' ∉ markers.opening.dropLast)
      (hopen : FirstAt markers.opening source before rest) (hfits' : '\n' ∉ markers.closing.dropLast)
      (hclose : FirstAt markers.closing rest body trailer) :
      Located markers source (.ok ⟨body, 1 + before.count '\n'⟩)

/-- what is found is located: the cases of the search are those of `Located` -/
theorem located_ofSource {markers : Markers} (hopening : markers.opening ≠ []) (hclosing : markers.closing ≠ [])
    (source : Text) : Located markers source (ofSource markers source) := by
  by_cases hfits : '\n' ∈ markers.opening.dropLast
  · rw [ofSource_of_broken hfits]
    exact .notOpened (Or.inl hfits)
  · rw [ofSource_eq_behind ((Text.fitsLine_iff hopening).2 hfits) hclosing]
    cases ho : splitAt? markers.opening source with
    | none => exact .notOpened (Or.inr (Text.splitAt?_eq_none_iff.1 ho))
    | some parts =>
      obtain ⟨before, rest⟩ := parts
      have hopen := Text.splitAt?_eq_some_iff.1 ho
      by_cases hfits' : '\n' ∈ markers.closing.dropLast
      · simp only [bodyOf?_of_broken hfits']
        exact .notClosed hfits hopen (Or.inl hfits')
      · simp only [bodyOf?_lines_eq_cut ((Text.fitsLine_iff hclosing).2 hfits')]
        cases hc : splitAt? markers.closing rest with
        | none => exact .notClosed hfits hopen (Or.inr (Text.splitAt?_eq_none_iff.1 hc))
        | some parts => exact .enclosed hfits hopen hfits' (Text.splitAt?_eq_some_iff.1 hc)

/-- the markers do not leave a choice -/
theorem Located.unique {markers : Markers} {source : Text} {r r' : Except Cause Comment}
    (h : Located markers source r) (h' : Located markers source r') : r = r' := by
  have hopened : ∀ {before rest}, '\n' ∉ markers.opening.dropLast → FirstAt markers.opening source before rest →
      ¬ ('\n' ∈ markers.opening.dropLast ∨ ¬ markers.opening <:+: source) := by
    rintro before rest hfits hopen (hbroken | hno)
    · exact hfits hbroken
    · exact hno ⟨before, rest, hopen.1.symm⟩
  have hclosed : ∀ {rest body trailer}, '\n' ∉ markers.closing.dropLast → FirstAt markers.closing rest body trailer →
      ¬ ('\n' ∈ markers.closing.dropLast ∨ ¬ markers.closing <:+: rest) := by
    rintro rest body trailer hfits hclose (hbroken | hno)
    · exact hfits hbroken
    · exact hno ⟨body, trailer, hclose.1.symm⟩
  cases h with
  | notOpened hno =>
    cases h' with
    | notOpened => rfl
    | notClosed hfits hopen => exact absurd hno (hopened hfits hopen)
    | enclosed hfits hopen => exact absurd hno (hopened hfits hopen)
  | notClosed hfits hopen hno =>
    cases h' with
    | notOpened hno' => exact absurd hno' (hopened hfits hopen)
    | notClosed _ hopen' =>
      obtain ⟨rfl, -⟩ := hopen.unique hopen'
      rfl
    | enclosed _ hopen' hfits' hclose =>
      obtain ⟨-, rfl⟩ := hopen.unique hopen'
      exact absurd hno (hclosed hfits' hclose)
  | enclosed hfits hopen hfits' hclose =>
    cases h' with
    | notOpened hno' => exact absurd hno' (hopened hfits hopen)
    | notClosed _ hopen' hno' =>
      obtain ⟨-, rfl⟩ := hopen.unique hopen'
      exact absurd hno' (hclosed hfits' hclose)
    | enclosed _ hopen' _ hclose' =>
      obtain ⟨rfl, rfl⟩ := hopen.unique hopen'
      obtain ⟨rfl, -⟩ := hclose.unique hclose'
      rfl

/-- **Reading by lines is reading the whole text.** For markers that are not empty, what is found of the comment of a
source, reading it line by line, is what the first markers in its whole text tell, and nothing else. -/
theorem reading_by_lines_is_reading_whole {markers : Markers} (hopening : markers.opening ≠ [])
    (hclosing : markers.closing ≠ []) (source : Text) (r : Except Cause Comment) :
    ofSource markers source = r ↔ Located markers source r := by
  have hfound := located_ofSource hopening hclosing source
  constructor
  · rintro rfl
    exact hfound
  · intro h
    exact hfound.unique h

/-- a close marker that ends in a line feed -/
def feedMarkers : Markers := { closing := "*/\n".toList }

/-- the open marker overlaps what would close it, and the first `*/` is not followed by a line feed -/
def overlappingSource : Text := "x\n\ny /*/ p\n*/ q*/\n*/\n".toList

theorem reading_by_lines_is_reading_whole_overlapping :
    feedMarkers.opening ≠ [] ∧ feedMarkers.closing ≠ [] ∧
      Located feedMarkers overlappingSource (.ok ⟨"/ p\n*/ q".toList, 3⟩) ∧
      ∀ r, Located feedMarkers overlappingSource r → r = .ok ⟨"/ p\n*/ q".toList, 3⟩ := by
  have hopening : feedMarkers.opening ≠ [] := by decide
  have hclosing : feedMarkers.closing ≠ [] := by decide
  have hread : ofSource feedMarkers overlappingSource = .ok ⟨"/ p\n*/ q".toList, 3⟩ := by decide +kernel
  refine ⟨hopening, hclosing, (reading_by_lines_is_reading_whole hopening hclosing _ _).1 hread, fun r hr => ?_⟩
  exact ((reading_by_lines_is_reading_whole hopening hclosing _ r).2 hr).symm.trans hread

end Comment
end RunnableDocs
