/-
What the text of a block keeps of the lines that it stands on.

A block is the text of its lines, apart from the blank ones: `absorb` knows how many of them there were, but not how
they ended, and puts back a line feed for each (`block_keeps_its_lines`). So a block is the body word for word exactly
if no line inside it is a return with a line feed. `blocks_not_verbatim` is the smallest block that is not.
-/
import RunnableDocs.Proofs.Coverage

namespace RunnableDocs.Paragraph

open Text (AreLines lines)

/-- the lines of a body that a paragraph stands on, the first line of the body having the number `n` -/
def linesOf (body : Text) (n : ℕ) (p : Paragraph) : List Text :=
  ((lines body).drop (p.lineStart - n)).take (p.lineEnd + 1 - p.lineStart)

/-- the lines of a run are found again by the numbers of its paragraph -/
theorem linesOf_ofRun {body : Text} {before more rest : List Text} {first : Text}
    (h : lines body = before ++ first :: more ++ rest) (n : ℕ) :
    linesOf body n (ofRun (n + before.length) first more) = first :: more := by
  have hdrop : n + before.length - n = before.length := by omega
  have htake : n + before.length + more.length + 1 - (n + before.length) = (first :: more).length := by
    simp only [List.length_cons]
    omega
  simp only [linesOf, ofRun, h, hdrop, htake, List.append_assoc, List.drop_left, List.take_left]

/-! ## Which lines come back as they were -/

theorem restored_eq_self_iff {l : Text} (hl : l ≠ []) : restored l = l ↔ l ≠ ['\r', '\n'] := by
  constructor
  · rintro h rfl
    exact absurd h (by decide)
  · intro hr
    by_cases hb : isBlank l = true
    · -- the only other blank line is a line feed alone
      have hn : l = ['\n'] := by
        simp only [isBlank, Bool.or_eq_true, decide_eq_true_eq] at hb
        tauto
      subst hn
      rfl
    · exact restored_of_not_blank (by simpa using hb)

/-- lines that come back are glued to the same text exactly if each of them comes back as it was -/
theorem flatten_restored_eq_iff {ls : List Text} (h : AreLines ls) :
    (ls.map restored).flatten = ls.flatten ↔ ['\r', '\n'] ∉ ls := by
  constructor
  · intro heq hmem
    -- cut again, both texts give their lines
    have hlines : ls.map restored = ls.map id := by
      rw [List.map_id, ← Text.lines_flatten (areLines_restored h), heq, Text.lines_flatten h]
    exact absurd (List.map_eq_map_iff.1 hlines _ hmem) (by decide)
  · intro hno
    have hself : ∀ l ∈ ls, restored l = id l := fun l hl =>
      (restored_eq_self_iff (h.ne_nil hl)).2 fun he => hno (he ▸ hl)
    rw [List.map_congr_left hself, List.map_id]

/-! ## Blocks and their lines -/

/-- **A block keeps its lines.** Each block of a body stands on lines of that body, the first of them not blank, and
its text is these lines in order, a blank one read as its line feed alone. Word for word the text of its lines it is
exactly if none of them is a return and a line feed. -/
theorem block_keeps_its_lines (body : Text) (n : ℕ) (p : Paragraph) (hp : p ∈ blocks body n) :
    n ≤ p.lineStart ∧ p.lineStart ≤ p.lineEnd ∧ p.lineEnd < n + (lines body).length ∧
      (linesOf body n p).length = p.lineEnd + 1 - p.lineStart ∧
      p.text = ((linesOf body n p).map restored).flatten ∧
      (p.text = (linesOf body n p).flatten ↔ ['\r', '\n'] ∉ linesOf body n p) := by
  obtain ⟨before, first, more, rest, hbody, -, rfl⟩ := (covers_blocks body n).mem hp
  have hlines : AreLines (first :: more) := by
    have hall : AreLines (before ++ first :: more ++ rest) := hbody ▸ Text.areLines_lines body
    exact hall.append_left.drop_append
  have hcount : (lines body).length = before.length + (more.length + 1) + rest.length := by
    rw [hbody]
    simp only [List.length_append, List.length_cons]
  rw [linesOf_ofRun hbody]
  refine ⟨?_, ?_, ?_, ?_, rfl, flatten_restored_eq_iff hlines⟩
  · simp only [ofRun]
    omega
  · simp only [ofRun]
    omega
  · simp only [ofRun]
    omega
  · simp only [ofRun, List.length_cons]
    omega

/-- two lines of code with a blank line between them, all of them ended by a return and a line feed -/
def returnedBody : Text := "\ta\r\n\r\n\tb\r\n".toList

theorem block_keeps_its_lines_returned :
    (⟨1, 3, "\ta\r\n\n\tb\r\n".toList⟩ : Paragraph) ∈ blocks returnedBody 1 ∧
      linesOf returnedBody 1 ⟨1, 3, "\ta\r\n\n\tb\r\n".toList⟩ =
        ["\ta\r\n".toList, "\r\n".toList, "\tb\r\n".toList] ∧
      "\ta\r\n\n\tb\r\n".toList =
        ((linesOf returnedBody 1 ⟨1, 3, "\ta\r\n\n\tb\r\n".toList⟩).map restored).flatten := by
  have hp : (⟨1, 3, "\ta\r\n\n\tb\r\n".toList⟩ : Paragraph) ∈ blocks returnedBody 1 := by decide +kernel
  obtain ⟨-, -, -, -, htext, -⟩ := block_keeps_its_lines returnedBody 1 _ hp
  exact ⟨hp, by decide +kernel, htext⟩

/-- a blank line inside a block loses its return -/
theorem blocks_not_verbatim :
    ¬ ∀ (body : Text) (n : ℕ), ∀ p ∈ blocks body n, p.text = (linesOf body n p).flatten := by
  intro h
  have hp : (⟨1, 3, "\ta\r\n\n\tb\r\n".toList⟩ : Paragraph) ∈ blocks returnedBody 1 := by decide +kernel
  exact absurd (h returnedBody 1 _ hp) (by decide +kernel)

end RunnableDocs.Paragraph
