/-
Programs and the lines of the source that they were written on.

The code of a program is a block of the comment with its indentation taken away, and a block covers lines of the
comment. `programs_show_source` puts this together: each program stands on lines of its own between the line of the open
marker and that of the close marker, in order, and cut at its line feeds its code is what these lines read.
-/
import RunnableDocs.Proofs.Coverage
import RunnableDocs.Proofs.Enclosure
import RunnableDocs.Proofs.Extraction
import RunnableDocs.Proofs.Indentation

namespace RunnableDocs

open Comment (Encloses lineAt?)
open Paragraph (Covers blocks isBlank ofRun restored)
open Text (AreLines Complete chomp lines splitOn)

namespace Program

/-- what a line of a source reads as a line of code: its line feed and one tab at its start left out, and nothing at all
of a line that is only a return and a line feed -/
def reading (line : Text) : Text := if line = ['\r', '\n'] then [] else dropTab (chomp line)

/-- cut at its line feeds, the code is what the lines of the program read; only an empty piece may follow, and only
behind a line feed -/
structure Shows (line? : ℕ → Option Text) (p : Program) : Prop where
  piece : ∀ k ≤ p.lineEnd - p.lineStart, ∃ line, line? (p.lineStart + k) = some line ∧
    (splitOn '\n' p.code)[k]? = some (reading line)
  rest : ∀ k piece, p.lineEnd - p.lineStart < k → (splitOn '\n' p.code)[k]? = some piece →
    k = p.lineEnd - p.lineStart + 1 ∧ piece = [] ∧ p.code.getLast? = some '\n'

/-! ## Pieces of a block -/

theorem reading_eq (line : Text) : dropTab (chomp (restored line)) = reading line := by
  unfold reading restored
  split_ifs with hb hr hr
  · rfl
  · have hl : line = [] ∨ line = ['\n'] := by
      simp only [isBlank, Bool.or_eq_true, decide_eq_true_eq] at hb
      tauto
    rcases hl with rfl | rfl <;> rfl
  · subst hr
    exact absurd rfl hb
  · rfl

/-- the pieces of a run without its indentation -/
theorem splitOn_untab_ofRun {n : ℕ} {first : Text} {more : List Text} (h : AreLines (first :: more)) :
    splitOn '\n' (untab (ofRun n first more).text) =
      (first :: more).map reading ++ if Complete (ofRun n first more).text then [[]] else [] := by
  rw [splitOn_untab, Text.splitOn_lines, Paragraph.lines_ofRun h, List.map_append, List.map_map, List.map_map]
  congr 1
  · exact List.map_congr_left fun l _ => reading_eq l
  · split_ifs <;> rfl

theorem shows_of_standing {line? : ℕ → Option Text} {p : Program} {n : ℕ} {first : Text} {more : List Text}
    (hp : standing p = standingOf (ofRun n first more)) (hlines : AreLines (first :: more))
    (hsource : ∀ k l, (first :: more)[k]? = some l → line? (n + k) = some l) : Shows line? p := by
  obtain ⟨hstart, hend, hcode⟩ : p.lineStart = n ∧ p.lineEnd = n + more.length ∧
      p.code = untab (ofRun n first more).text := by simpa [standing, standingOf, ofRun] using hp
  have hpieces := @splitOn_untab_ofRun n first more hlines
  rw [← hcode] at hpieces
  generalize hr : (if Complete (ofRun n first more).text then [[]] else [] : List Text) = rest at hpieces
  have hrest : rest = [] ∨ rest = [[]] := by
    rw [← hr]
    split_ifs <;> simp
  have hcount : p.lineEnd - p.lineStart = more.length := by omega
  constructor
  · intro k hk
    rw [hcount] at hk
    have hlt : k < (first :: more).length := by rw [List.length_cons]; omega
    refine ⟨(first :: more)[k], ?_, ?_⟩
    · rw [hstart]
      exact hsource k _ (List.getElem?_eq_getElem hlt)
    · rw [hpieces, List.getElem?_append_left (by simpa using hlt), List.getElem?_map, List.getElem?_eq_getElem hlt]
      rfl
  · intro k piece hk hpiece
    rw [hcount] at hk ⊢
    rw [hpieces, List.getElem?_append_right (by simpa using hk)] at hpiece
    rcases hrest with rfl | rfl
    · simp at hpiece
    · have hk' : k = more.length + 1 := by
        have := (List.getElem?_eq_some_iff.1 hpiece).1
        simp only [List.length_map, List.length_cons, List.length_nil] at this
        omega
      subst hk'
      refine ⟨rfl, ?_, Text.getLast?_of_splitOn (by simp) hpieces⟩
      simpa using hpiece.symm

/-! ## Line fidelity -/

/-- a block behind the first one stands behind the line of the open marker, and shows its lines -/
theorem shows_of_block {markers : Markers} {source cut : Text} {opened : ℕ} {inner : List Text} {ps : List Paragraph}
    {p : Program} {q : Paragraph} (hm : markers.WithinLine) (henc : Encloses markers source opened inner cut)
    (hcovers : Covers opened (lines (inner.flatten ++ cut)) ps) (hq : q ∈ ps.tail) (hp : standing p = standingOf q) :
    opened < p.lineStart ∧ p.lineStart ≤ p.lineEnd ∧ p.lineEnd ≤ opened + inner.length ∧
      p.Shows (lineAt? source (opened + inner.length) cut) := by
  obtain ⟨before, first, more, rest, hbody, -, rfl⟩ := hcovers.mem (List.mem_of_mem_tail hq)
  obtain ⟨hstart, hend⟩ : p.lineStart = opened + before.length ∧ p.lineEnd = opened + before.length + more.length := by
    simp only [standing, standingOf, ofRun, Prod.mk.injEq] at hp
    exact ⟨hp.1, hp.2.1⟩
  -- the first block is before this one, so this one does not start on the line of the open marker
  have hbefore : 0 < before.length := by
    cases ps with
    | nil => cases hq
    | cons p₀ ps =>
      obtain ⟨before₀, first₀, more₀, -, -, -, rfl⟩ := hcovers.mem List.mem_cons_self
      have := (List.pairwise_cons.1 hcovers.pairwise).1 _ hq
      simp only [ofRun] at this
      omega
  have hlines : AreLines (before ++ first :: more ++ rest) := hbody ▸ Text.areLines_lines _
  rw [henc.lines_body hm] at hbody
  have hlength : before.length + more.length ≤ inner.length := by
    have hl := congrArg List.length hbody
    have : (if cut = [] then [] else [cut]).length ≤ 1 := by split_ifs <;> simp
    simp only [List.length_append, List.length_cons] at hl
    omega
  refine ⟨by omega, by omega, by omega, shows_of_standing hp (hlines.append_left.drop_append) fun k l hk => ?_⟩
  rw [Nat.add_assoc]
  refine henc.lineAt?_of_body (by omega) ?_
  have hlt := (List.getElem?_eq_some_iff.1 hk).1
  rw [hbody, List.getElem?_append_left (by simp only [List.length_append]; omega),
    List.getElem?_append_right (Nat.le_add_right _ _), Nat.add_sub_cancel_left, hk]

/-- **Programs show their source.** If the programs of a source are found, then its comment lies between an open marker
on line `opened` and a close marker `inner.length` lines further on, behind `cut`; each program stands on lines behind
the first and not behind the second; its code is what these lines read, piece by piece; and of two programs the earlier
ends before the later starts. -/
theorem programs_show_source {markers : Markers} {extensions : List Text} {source : Text} {programs : List Program}
    (hm : markers.WithinLine) (h : ofSource markers extensions source = .ok programs) :
    ∃ opened inner cut, Encloses markers source opened inner cut ∧
      (∀ p ∈ programs, opened < p.lineStart ∧ p.lineStart ≤ p.lineEnd ∧ p.lineEnd ≤ opened + inner.length ∧
        p.Shows (lineAt? source (opened + inner.length) cut)) ∧
      programs.Pairwise (fun p q => p.lineEnd < q.lineStart) := by
  obtain ⟨c, hc, hprograms⟩ := ofSource_eq_ok_iff.1 h
  obtain ⟨inner, cut, henc, hbody⟩ := Comment.ofSource_eq_ok_iff.1 hc
  rw [hbody] at hprograms
  have hcovers := Paragraph.covers_blocks (inner.flatten ++ cut) c.firstLine
  have hsub := ofParagraphs_sublist hprograms
  refine ⟨c.firstLine, inner, cut, henc, fun p hp => ?_, ?_⟩
  · obtain ⟨q, hq, hqp⟩ := List.mem_map.1 (hsub.subset (List.mem_map_of_mem hp))
    exact shows_of_block hm henc hcovers hq hqp.symm
  · have hpairs : (programs.map standing).Pairwise (fun x y => x.2.1 < y.1) :=
      List.Pairwise.sublist hsub (List.pairwise_map.2 hcovers.pairwise.tail)
    exact List.pairwise_map.1 hpairs

/-- a comment that is closed on the last line of a code, with blank lines of both forms in and around that code -/
def mixedSource : Text := "x /* h\n\r\na.py\n\r\n\tp\r\n\r\n\n\tq*/\n".toList

theorem programs_show_source_mixed :
    Markers.WithinLine {} ∧
      ofSource {} ["py".toList] mixedSource =
        .ok [⟨5, 8, "a.py".toList, "py".toList, "p\r\n\n\nq".toList, none⟩] ∧
      ∃ opened inner cut, Encloses {} mixedSource opened inner cut ∧
        (∀ p ∈ [(⟨5, 8, "a.py".toList, "py".toList, "p\r\n\n\nq".toList, none⟩ : Program)],
          opened < p.lineStart ∧ p.lineStart ≤ p.lineEnd ∧ p.lineEnd ≤ opened + inner.length ∧
            p.Shows (lineAt? mixedSource (opened + inner.length) cut)) ∧
        [(⟨5, 8, "a.py".toList, "py".toList, "p\r\n\n\nq".toList, none⟩ : Program)].Pairwise
          (fun p q => p.lineEnd < q.lineStart) := by
  have hm : Markers.WithinLine {} := by constructor <;> decide
  have hp : ofSource {} ["py".toList] mixedSource =
      .ok [⟨5, 8, "a.py".toList, "py".toList, "p\r\n\n\nq".toList, none⟩] := by decide +kernel
  exact ⟨hm, hp, programs_show_source hm hp⟩

end Program
end RunnableDocs
