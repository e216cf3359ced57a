/-
Sections of a body: what is parsed of two texts with a blank line between them.

The blank line cuts the paragraphs of the two apart (`split_section`), and if the second does not start with code, no
block reaches across the cut either (`blocks_section`). Extraction still looks two paragraphs ahead of a program for its
output; it finds none there if the second section starts with neither code nor a marker (`ofParagraphs_append`). So the
programs of two such sections are those of the first, and then those of the second (`sections_are_local`).
-/
import RunnableDocs.Proofs.Extraction
import RunnableDocs.Proofs.Layout

namespace RunnableDocs

open Paragraph (StartsBlank blocks merge ofLines split startsWithTab)
open Text (Complete lines)

/-! ## The paragraphs of two sections -/

namespace Paragraph

/-- the number of the line behind a section that starts on line `n`, and behind the blank line that follows it -/
def behind (n : ℕ) (body : Text) : ℕ := n + (lines body).length + 1

theorem split_section {first : Text} (hfirst : Complete first) (second : Text) (n : ℕ) :
    split (first ++ '\n' :: second) n = split first n ++ split second (behind n first) := by
  have hlines : lines (first ++ '\n' :: second) = lines first ++ ['\n'] :: lines second := by
    rw [Text.lines_append hfirst, lines, if_pos rfl]
  have hcut : StartsBlank (['\n'] :: lines second) := by
    intro l hl
    obtain rfl := Option.some.inj hl
    rfl
  rw [split, hlines, ofLines_append hcut, ofLines]
  rfl

theorem head?_merge {ps : List Paragraph} (h : ∀ p, ps.head? = some p → startsWithTab p.text = false) :
    (merge ps).head? = ps.head? := by
  cases ps with
  | nil => rfl
  | cons p ps => rw [merge_cons_of_plain (isIndented_of_plain (h p rfl))]; rfl

/-- no block reaches across the blank line if the second section does not start with code -/
theorem blocks_section {first second : Text} (hfirst : Complete first) {n : ℕ}
    (hsecond : ∀ p, (split second (behind n first)).head? = some p → startsWithTab p.text = false) :
    blocks (first ++ '\n' :: second) n = blocks first n ++ blocks second (behind n first) := by
  rw [blocks, split_section hfirst, merge_append]
  · rfl
  · rw [head?_merge hsecond]
    exact fun p hp => isIndented_of_plain (hsecond p hp)

end Paragraph

/-! ## The programs of two sections -/

namespace Program
variable {extensions : List Text}

/-- the programs of a body whose first line has the number `n` -/
def ofBody (extensions : List Text) (body : Text) (n : ℕ) : Except Cause (List Program) :=
  ofParagraphs extensions (blocks body n)

/-- neither code nor a marker comes first -/
def StartsAfresh (ps : List Paragraph) : Prop :=
  ∀ p, ps.head? = some p → startsWithTab p.text = false ∧ p.isOutputMarker = false

theorem after_append {q : Paragraph} (htab : startsWithTab q.text = false) (hmark : q.isOutputMarker = false)
    (previous : Paragraph) (ps qs : List Paragraph) :
    after extensions previous (ps ++ q :: qs) = after extensions previous ps ++ after extensions q qs := by
  fun_induction after extensions previous ps with
  | case1 previous => exact after_plain htab previous qs
  | case2 previous p ps hp hd ih =>
    rw [List.cons_append, after_undeclared hd]
    exact ih
  | case3 previous p hp d hd marker output rest hm ih =>
    obtain ⟨hmarker, houtput⟩ : marker.isOutputMarker = true ∧ output.opensCode = true := by simpa using hm
    rw [List.cons_append, List.cons_append, List.cons_append, after_with_output hp hd hmarker houtput, ih]
    rfl
  | case4 previous p hp d hd marker output rest hm ih =>
    rw [List.cons_append, after_alone hp hd, ih]
    · rfl
    · intro marker' output' rest' he
      simp only [List.cons_append, List.cons.injEq] at he
      obtain ⟨rfl, rfl, -⟩ := he
      simpa [Paragraph.opensCode] using hm
  | case5 previous p hp d hd ps hps ih =>
    rw [List.cons_append, after_alone hp hd, ih]
    · rfl
    · -- at most one paragraph is left, so the second section would have to give the marker or the output
      rintro marker output rest he ⟨hm, ho⟩
      rcases ps with _ | ⟨x, _ | ⟨y, ps⟩⟩
      · obtain ⟨rfl, -⟩ := List.cons.inj he
        rw [hmark] at hm
        cases hm
      · obtain ⟨-, he⟩ := List.cons.inj he
        obtain ⟨rfl, -⟩ := List.cons.inj he
        rw [htab] at ho
        cases ho
      · exact absurd rfl (hps x y ps)
  | case6 previous p ps hp ih =>
    rw [List.cons_append, after_plain (by simpa [Paragraph.opensCode] using hp)]
    exact ih

theorem ofParagraphs_of_startsAfresh {ps : List Paragraph} (h : StartsAfresh ps) :
    ∃ programs, ofParagraphs extensions ps = .ok programs := by
  cases ps with
  | nil => exact ⟨[], rfl⟩
  | cons p ps =>
    have hp := (h p rfl).1
    exact ⟨after extensions p ps, by rw [ofParagraphs_cons, hp, if_neg Bool.false_ne_true]⟩

theorem ofParagraphs_append {qs : List Paragraph} (hqs : StartsAfresh qs) (ps : List Paragraph) :
    ofParagraphs extensions (ps ++ qs) = do
      let programs ← ofParagraphs extensions ps
      let more ← ofParagraphs extensions qs
      return programs ++ more := by
  cases ps with
  | nil =>
    obtain ⟨more, hmore⟩ := @ofParagraphs_of_startsAfresh extensions _ hqs
    rw [List.nil_append, hmore]
    rfl
  | cons p ps =>
    rw [List.cons_append, ofParagraphs_cons, ofParagraphs_cons]
    split_ifs with hp
    · rfl
    · cases qs with
      | nil => simp [ofParagraphs, bind, Except.bind, pure, Except.pure]
      | cons q qs =>
        obtain ⟨htab, hmark⟩ := hqs q rfl
        rw [after_append htab hmark, ofParagraphs_cons, htab, if_neg Bool.false_ne_true]
        rfl

/-- **Sections are local.** Take a first section of complete lines, a blank line, and a second section whose first
paragraph, if it has any, is neither code nor a marker. Parsing the whole fails just as parsing the first section does.
If that does not fail, neither does parsing the second section where it stands, and the programs of the whole are those
of the first section and then those of the second. -/
theorem sections_are_local (extensions : List Text) (n : ℕ) {first second : Text} (hfirst : Complete first)
    (hsecond : StartsAfresh (split second (Paragraph.behind n first))) :
    (∀ e, ofBody extensions (first ++ '\n' :: second) n = .error e ↔ ofBody extensions first n = .error e) ∧
      ∀ programs, ofBody extensions first n = .ok programs →
        ∃ more, ofBody extensions second (Paragraph.behind n first) = .ok more ∧
          ofBody extensions (first ++ '\n' :: second) n = .ok (programs ++ more) := by
  have hplain : ∀ p, (split second (Paragraph.behind n first)).head? = some p → startsWithTab p.text = false :=
    fun p hp => (hsecond p hp).1
  have hafresh : StartsAfresh (blocks second (Paragraph.behind n first)) := by
    intro p hp
    rw [blocks, Paragraph.head?_merge hplain] at hp
    exact hsecond p hp
  have hwhole : ofBody extensions (first ++ '\n' :: second) n = do
      let programs ← ofBody extensions first n
      let more ← ofBody extensions second (Paragraph.behind n first)
      return programs ++ more := by
    rw [ofBody, Paragraph.blocks_section hfirst hplain, ofParagraphs_append hafresh]
    rfl
  obtain ⟨more, hmore⟩ := @ofParagraphs_of_startsAfresh extensions _ hafresh
  have hmore : ofBody extensions second (Paragraph.behind n first) = .ok more := hmore
  constructor
  · intro e
    rw [hwhole, hmore]
    cases ofBody extensions first n with
    | error e' => rfl
    | ok programs => simp [bind, Except.bind, pure, Except.pure]
  · intro programs hprograms
    refine ⟨more, hmore, ?_⟩
    rw [hwhole, hprograms, hmore]
    rfl

/-- a section that ends in a marker, which would take any code behind it for the output of its program -/
def waitingSection : Text := "a.sh\n\n\tp\n\nOutput:\n".toList

/-- a section that starts with a declaration and has an output -/
def declaringSection : Text := "\nb.sh\n\n\tq\n\n output: \n\n\tr\n".toList

theorem sections_are_local_waiting :
    Complete waitingSection ∧ StartsAfresh (split declaringSection (Paragraph.behind 3 waitingSection)) ∧
      ofBody ["sh".toList] waitingSection 3 = .ok [⟨5, 5, "a.sh".toList, "sh".toList, "p\n".toList, none⟩] ∧
      ofBody ["sh".toList] declaringSection (Paragraph.behind 3 waitingSection) =
        .ok [⟨12, 12, "b.sh".toList, "sh".toList, "q\n".toList, some "r\n".toList⟩] ∧
      ofBody ["sh".toList] (waitingSection ++ '\n' :: declaringSection) 3 =
        .ok [⟨5, 5, "a.sh".toList, "sh".toList, "p\n".toList, none⟩,
          ⟨12, 12, "b.sh".toList, "sh".toList, "q\n".toList, some "r\n".toList⟩] := by
  have hfirst : Complete waitingSection := by decide
  have hsecond : StartsAfresh (split declaringSection (Paragraph.behind 3 waitingSection)) := by
    intro r hr
    obtain rfl := Option.some.inj hr
    decide
  have hp : ofBody ["sh".toList] waitingSection 3 =
      .ok [⟨5, 5, "a.sh".toList, "sh".toList, "p\n".toList, none⟩] := by decide +kernel
  have hq : ofBody ["sh".toList] declaringSection (Paragraph.behind 3 waitingSection) =
      .ok [⟨12, 12, "b.sh".toList, "sh".toList, "q\n".toList, some "r\n".toList⟩] := by decide +kernel
  obtain ⟨more, hmore, hwhole⟩ := (sections_are_local ["sh".toList] 3 hfirst hsecond).2 _ hp
  have heq := Except.ok.inj (hmore.symm.trans hq)
  rw [heq] at hwhole
  exact ⟨hfirst, hsecond, hp, hq, hwhole⟩

end Program
end RunnableDocs
