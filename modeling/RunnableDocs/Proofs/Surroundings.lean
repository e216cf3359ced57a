/-
What stands around the comment of a source.

Lines in front of a source move it down, and every line number with it (`shift`). Each stage of parsing only adds to
line numbers and compares them with each other, so moving the lines and then going through a stage is the same as going
through it and then moving what it gives: `ofLines_shift`, `merge_shift`, `ofParagraphs_shift`, `Comment.ofLines_shift`.
What stands behind the close marker is not even seen, as the comment is cut out by two searches
(`Comment.ofSource_eq_ok_iff_firstAt`). `surroundings_do_not_matter` states both.
-/
import RunnableDocs.Proofs.Alike
import RunnableDocs.Proofs.Cut

namespace RunnableDocs

open Paragraph (blocks merge ofLines split)
open Text (FirstAt IsFull lines splitAt?)

/-! ## Moving down -/

/-- the paragraph, so many lines further down -/
def Paragraph.shift (h : ℕ) (p : Paragraph) : Paragraph :=
  { p with lineStart := p.lineStart + h, lineEnd := p.lineEnd + h }

/-- the program, so many lines further down -/
def Program.shift (h : ℕ) (p : Program) : Program :=
  { p with lineStart := p.lineStart + h, lineEnd := p.lineEnd + h }

def Comment.shift (h : ℕ) (c : Comment) : Comment := { c with firstLine := c.firstLine + h }

/-- the cause, with the lines that it speaks of so many lines further down -/
def Cause.shift (h : ℕ) : Cause → Cause
  | missingClose line marker => missingClose (line + h) marker
  | codeWithoutDeclaration line => codeWithoutDeclaration (line + h)
  | unsupportedLanguage filename line language => unsupportedLanguage filename (line + h) language
  | cause => cause

/-- the programs or the cause that there are none, so many lines further down -/
def Program.shiftAll (h : ℕ) (r : Except Cause (List Program)) : Except Cause (List Program) :=
  (r.map (List.map (Program.shift h))).mapError (Cause.shift h)

/-! ## Paragraphs and blocks -/

namespace Paragraph

theorem ofLines_shift (h n : ℕ) (ls : List Text) : ofLines (n + h) ls = (ofLines n ls).map (shift h) := by
  induction ls generalizing n with
  | nil => rfl
  | cons line more ih =>
    have hmore : ofLines (n + h + 1) more = (ofLines (n + 1) more).map (shift h) := by
      rw [← ih (n + 1)]
      congr 1
      omega
    rw [ofLines, ofLines, hmore]
    split_ifs with hblank
    · rfl
    · cases ofLines (n + 1) more with
      | nil => rfl
      | cons p others =>
        -- the next paragraph starts on the next line in both
        have hnext : (shift h p).lineStart = n + h + 1 ↔ p.lineStart = n + 1 := by
          simp only [shift]
          omega
        simp only [List.map_cons, hnext]
        split_ifs <;> rfl

theorem absorb_shift (h : ℕ) (p next : Paragraph) : (shift h p).absorb (shift h next) = shift h (p.absorb next) := by
  have hgap : next.lineStart + h - (p.lineEnd + h + 1) = next.lineStart - (p.lineEnd + 1) := by omega
  rw [absorb]
  simp only [shift, hgap]
  rfl

/-- parsing asks for the lines of a paragraph only to compare them -/
theorem likeness_shift (extensions : List Text) (h : ℕ) : Likeness extensions fun p q => p.shift h = q where
  tab hpq := hpq ▸ rfl
  indented hpq := hpq ▸ rfl
  marker hpq := hpq ▸ rfl
  declares hpq := hpq ▸ rfl
  absorb hpq hnext := by rw [← hpq, ← hnext, absorb_shift]

theorem forall₂_shift (h : ℕ) (ps : List Paragraph) :
    List.Forall₂ (fun p q => p.shift h = q) ps (ps.map (shift h)) := by
  rw [← List.forall₂_map_left_iff, List.forall₂_eq_eq_eq]

theorem merge_shift (h : ℕ) (ps : List Paragraph) : merge (ps.map (shift h)) = (merge ps).map (shift h) := by
  have hmerge := merge_forall₂ (likeness_shift [] h) (forall₂_shift h ps)
  rw [← List.forall₂_map_left_iff, List.forall₂_eq_eq_eq] at hmerge
  exact hmerge.symm

theorem blocks_shift (h : ℕ) (body : Text) (n : ℕ) : blocks body (n + h) = (blocks body n).map (shift h) := by
  rw [blocks, split, ofLines_shift, merge_shift]
  rfl

end Paragraph

/-! ## Programs -/

namespace Program

theorem madeAlike_shift (h : ℕ) :
    MadeAlike (fun p q => p.shift h = q) (fun p q => Program.shift h p = q) := by
  rintro d p _ o o' rfl ho
  cases ho with
  | none => rfl
  | some hout => rw [← hout]; rfl

theorem ofParagraphs_shift (extensions : List Text) (h : ℕ) (ps : List Paragraph) :
    ofParagraphs extensions (ps.map (Paragraph.shift h)) = shiftAll h (ofParagraphs extensions ps) := by
  rcases ofParagraphs_alike (Paragraph.likeness_shift extensions h) (madeAlike_shift h)
    (Paragraph.forall₂_shift h ps) with ⟨p, q, rfl, hp, hq⟩ | ⟨programs, programs', hp, hq, halike⟩
  · rw [hp, hq]
    rfl
  · rw [← List.forall₂_map_left_iff, List.forall₂_eq_eq_eq] at halike
    rw [hp, hq, ← halike]
    rfl

end Program

/-! ## The comment -/

namespace Comment

/-- lines without an open marker are only counted -/
theorem ofLines_header (markers : Markers) (n : ℕ) {header : List Text}
    (hno : ∀ l ∈ header, ¬ markers.opening <:+: l) (ls : List Text) :
    ofLines markers n (header ++ ls) = ofLines markers (n + header.length) ls := by
  induction header generalizing n with
  | nil => rfl
  | cons line header ih =>
    rw [List.forall_mem_cons] at hno
    rw [List.cons_append, ofLines, Text.splitAt?_eq_none_iff.2 hno.1]
    simp only [ih (n + 1) hno.2, List.length_cons]
    congr 1
    omega

theorem ofLines_shift (markers : Markers) (h n : ℕ) (ls : List Text) :
    ofLines markers (n + h) ls = ((ofLines markers n ls).map (shift h)).mapError (Cause.shift h) := by
  induction ls generalizing n with
  | nil => rfl
  | cons line more ih =>
    rw [ofLines, ofLines]
    cases Text.splitAt? markers.opening line with
    | none =>
      have hn : n + h + 1 = n + 1 + h := by omega
      simp only [hn, ih (n + 1)]
    | some parts =>
      cases hbody : bodyOf? markers.closing (parts.2 :: more) with
      | none => simp only [hbody]; rfl
      | some body => simp only [hbody]; rfl

/-- complete lines without an open marker, put in front of a source, move its comment down -/
theorem ofSource_header (markers : Markers) {header : List Text}
    (hheader : ∀ l ∈ header, IsFull l ∧ ¬ markers.opening <:+: l) (source : Text) :
    ofSource markers (header.flatten ++ source) =
      ((ofSource markers source).map (shift header.length)).mapError (Cause.shift header.length) := by
  have hfull : ∀ l ∈ header, IsFull l := fun l hl => (hheader l hl).1
  have hlines : lines (header.flatten ++ source) = header ++ lines source := by
    rw [Text.lines_append (Text.complete_flatten hfull), Text.lines_flatten (.of_full hfull)]
  rw [ofSource, hlines, ofLines_header markers 1 fun l hl => (hheader l hl).2, ofLines_shift]
  rfl

/-- a comment that is closed does not depend on what follows its close marker -/
theorem ofSource_followed {markers : Markers} (hm : markers.FitLines) {source : Text} {c : Comment}
    (hc : ofSource markers source = .ok c) :
    ∃ before trailer, FirstAt markers.opening source before (c.body ++ markers.closing ++ trailer) ∧
      FirstAt markers.closing (c.body ++ markers.closing ++ trailer) c.body trailer ∧
      ∀ other, ofSource markers (before ++ markers.opening ++ (c.body ++ markers.closing ++ other)) = .ok c := by
  obtain ⟨before, trailer, hopen, hclose, hline⟩ := (ofSource_eq_ok_iff_firstAt hm).1 hc
  refine ⟨before, trailer, hopen, hclose, fun other => (ofSource_eq_ok_iff_firstAt hm).2 ?_⟩
  exact ⟨before, other, hopen.followed _, hclose.followed other, hline⟩

end Comment

namespace Program

theorem ofSource_header (markers : Markers) (extensions : List Text) {header : List Text}
    (hheader : ∀ l ∈ header, IsFull l ∧ ¬ markers.opening <:+: l) (source : Text) :
    ofSource markers extensions (header.flatten ++ source) =
      shiftAll header.length (ofSource markers extensions source) := by
  rw [ofSource, Comment.ofSource_header markers hheader, ofSource]
  cases Comment.ofSource markers source with
  | error e => rfl
  | ok c =>
    calc ofParagraphs extensions (blocks c.body (c.firstLine + header.length))
      _ = ofParagraphs extensions ((blocks c.body c.firstLine).map (Paragraph.shift header.length)) := by
        rw [Paragraph.blocks_shift]
      _ = shiftAll header.length (ofParagraphs extensions (blocks c.body c.firstLine)) :=
        ofParagraphs_shift extensions header.length _

/-- **Only the comment counts.** Complete lines without an open marker, put in front of a source, move every line number
of what is parsed down by their count, that of a failure too, and change nothing else. And if the first open marker of a
source stands behind `before` and is followed by a comment that is closed, any text may take the place of what is behind
the first close marker. -/
theorem surroundings_do_not_matter {markers : Markers} (hm : markers.WithinLine) (extensions : List Text)
    (source : Text) :
    (∀ header : List Text, (∀ l ∈ header, IsFull l ∧ ¬ markers.opening <:+: l) →
      ofSource markers extensions (header.flatten ++ source) =
        shiftAll header.length (ofSource markers extensions source)) ∧
    ∀ c, Comment.ofSource markers source = .ok c →
      ∃ before trailer, FirstAt markers.opening source before (c.body ++ markers.closing ++ trailer) ∧
        FirstAt markers.closing (c.body ++ markers.closing ++ trailer) c.body trailer ∧
        ∀ other, ofSource markers extensions (before ++ markers.opening ++ (c.body ++ markers.closing ++ other)) =
          ofSource markers extensions source := by
  refine ⟨fun header hheader => ofSource_header markers extensions hheader source, fun c hc => ?_⟩
  obtain ⟨before, trailer, hopen, hclose, hother⟩ := Comment.ofSource_followed hm.fitLines hc
  refine ⟨before, trailer, hopen, hclose, fun other => ?_⟩
  rw [ofSource, ofSource, hother other, hc]

def surroundedSource : Text := "x /* h\n\na.sh\n\n\tp\n*/ y".toList

/-- two lines that would hold an open marker if there were no line feed between them -/
def plainHeader : List Text := ["* /\n".toList, "*/\n".toList]

theorem surroundings_do_not_matter_moved :
    Markers.WithinLine {} ∧ (∀ l ∈ plainHeader, IsFull l ∧ ¬ ['/', '*'] <:+: l) ∧
      Comment.ofSource {} surroundedSource = .ok ⟨" h\n\na.sh\n\n\tp\n".toList, 1⟩ ∧
      ofSource {} ["sh".toList] surroundedSource = .ok [⟨5, 5, "a.sh".toList, "sh".toList, "p\n".toList, none⟩] ∧
      ofSource {} ["sh".toList] (plainHeader.flatten ++ surroundedSource) =
        .ok [⟨7, 7, "a.sh".toList, "sh".toList, "p\n".toList, none⟩] ∧
      ofSource {} ["sh".toList] "x /* h\n\na.sh\n\n\tp\n*/ /* b.sh".toList =
        .ok [⟨5, 5, "a.sh".toList, "sh".toList, "p\n".toList, none⟩] := by
  have hm : Markers.WithinLine {} := by constructor <;> decide
  have hheader : ∀ l ∈ plainHeader, IsFull l ∧ ¬ ['/', '*'] <:+: l := by
    simp only [plainHeader, List.forall_mem_cons]
    exact ⟨⟨⟨"* /".toList, by decide, rfl⟩, by decide⟩, ⟨⟨"*/".toList, by decide, rfl⟩, by decide⟩, by simp⟩
  have hc : Comment.ofSource {} surroundedSource = .ok ⟨" h\n\na.sh\n\n\tp\n".toList, 1⟩ := by decide +kernel
  have hp : ofSource {} ["sh".toList] surroundedSource =
      .ok [⟨5, 5, "a.sh".toList, "sh".toList, "p\n".toList, none⟩] := by decide +kernel
  obtain ⟨hmoved, hreplaced⟩ := surroundings_do_not_matter hm ["sh".toList] surroundedSource
  obtain ⟨before, trailer, hopen, hclose, hother⟩ := hreplaced _ hc
  have hsplit : splitAt? ['/', '*'] surroundedSource =
      some ("x ".toList, " h\n\na.sh\n\n\tp\n*/ y".toList) := by decide +kernel
  obtain ⟨rfl, -⟩ := hopen.unique (Text.firstAt_of_splitAt? hsplit)
  have hmoved := hmoved plainHeader hheader
  rw [hp] at hmoved
  have hother := hother " /* b.sh".toList
  rw [hp] at hother
  exact ⟨hm, hheader, hc, hp, hmoved, hother⟩

end Program
end RunnableDocs
