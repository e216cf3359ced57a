/-
How paragraphs cover the lines of a comment.

`Covers n ls ps`: the lines `ls`, numbered from `n` on, are blank lines and runs in turn, and `ps` are the paragraphs of
the runs in order, each with the numbers of its first and last line. A run starts with a line that is not blank; a blank
line inside it comes back as an empty one (`restored`).

- `covers_split`: the paragraphs of a body cover its lines;
- `Covers.merge`: joining blocks of code keeps that, so the number of empty lines that `absorb` reads off the line
  numbers is the number of blank lines that were there;
- `covers_blocks`: hence the blocks of a body cover its lines.
-/
import RunnableDocs.Paragraph
import RunnableDocs.Proofs.Text.Lines

namespace RunnableDocs.Paragraph

open Text (AreLines IsFull IsOpen lines)

/-- a line as it comes back in a paragraph: a blank one is only its line feed -/
def restored (line : Text) : Text := if isBlank line then ['\n'] else line

/-- the paragraph of a run of lines, the first of which has the number `n` -/
def ofRun (n : ℕ) (first : Text) (more : List Text) : Paragraph :=
  ⟨n, n + more.length, ((first :: more).map restored).flatten⟩

inductive Covers : ℕ → List Text → List Paragraph → Prop
  | blank {n : ℕ} {ls : List Text} (h : ∀ l ∈ ls, isBlank l = true) : Covers n ls []
  | run {n : ℕ} {gap : List Text} {first : Text} {more rest : List Text} {ps : List Paragraph}
      (hgap : ∀ l ∈ gap, isBlank l = true) (hfirst : isBlank first = false)
      (h : Covers (n + gap.length + (more.length + 1)) rest ps) :
      Covers n (gap ++ first :: more ++ rest) (ofRun (n + gap.length) first more :: ps)

/-! ## Lines as they come back -/

theorem restored_of_blank {l : Text} (h : isBlank l = true) : restored l = ['\n'] := if_pos h

theorem restored_of_not_blank {l : Text} (h : isBlank l = false) : restored l = l := if_neg (by simp [h])

theorem restored_isFull {l : Text} (h : IsFull l) : IsFull (restored l) := by
  unfold restored
  split_ifs
  · exact ⟨[], by simp, rfl⟩
  · exact h

theorem restored_isFull_or_isOpen {l : Text} (h : IsFull l ∨ IsOpen l) : IsFull (restored l) ∨ IsOpen (restored l) := by
  rcases h with h | h
  · exact Or.inl (restored_isFull h)
  · unfold restored
    split_ifs
    · exact Or.inl ⟨[], by simp, rfl⟩
    · exact Or.inr h

theorem areLines_restored {ls : List Text} (h : AreLines ls) : AreLines (ls.map restored) := by
  induction ls with
  | nil => trivial
  | cons l ls ih =>
    cases ls with
    | nil => exact restored_isFull_or_isOpen h
    | cons m ls => exact ⟨restored_isFull h.1, ih h.2⟩

theorem lines_ofRun {n : ℕ} {first : Text} {more : List Text} (h : AreLines (first :: more)) :
    lines (ofRun n first more).text = (first :: more).map restored :=
  Text.lines_flatten (areLines_restored h)

theorem flatten_restored_gap {gap : List Text} (h : ∀ l ∈ gap, isBlank l = true) :
    (gap.map restored).flatten = List.replicate gap.length '\n' := by
  induction gap with
  | nil => rfl
  | cons l gap ih =>
    rw [List.map_cons, List.flatten_cons, restored_of_blank (h l List.mem_cons_self),
      ih fun x hx => h x (List.mem_cons_of_mem l hx)]
    rfl

theorem ofRun_getLast? {n : ℕ} {first : Text} {more : List Text} (h : ∀ l ∈ first :: more, IsFull l) :
    (ofRun n first more).text.getLast? = some '\n' := by
  have hfull : ∀ l ∈ (first :: more).map restored, IsFull l := by
    intro l hl
    obtain ⟨x, hx, rfl⟩ := List.mem_map.1 hl
    exact restored_isFull (h x hx)
  refine (Text.complete_flatten hfull).resolve_left fun hnil => ?_
  exact (hfull _ List.mem_cons_self).ne_nil (List.append_eq_nil_iff.1 hnil).1

/-- **Joining restores the gap.** Two runs joined are the one run of their lines and the blank lines between them. -/
theorem absorb_ofRun {n : ℕ} {first first' : Text} {more gap more' : List Text}
    (hfull : ∀ l ∈ first :: more, IsFull l) (hgap : ∀ l ∈ gap, isBlank l = true) :
    (ofRun n first more).absorb (ofRun (n + (more.length + 1) + gap.length) first' more') =
      ofRun n first (more ++ gap ++ first' :: more') := by
  have hcount : n + (more.length + 1) + gap.length - (n + more.length + 1) = gap.length := by omega
  have hend : n + (more.length + 1) + gap.length + more'.length = n + (more ++ gap ++ first' :: more').length := by
    simp only [List.length_append, List.length_cons]
    omega
  have htext : ((first :: (more ++ gap ++ first' :: more')).map restored).flatten =
      ((first :: more).map restored).flatten ++ List.replicate gap.length '\n' ++
        ((first' :: more').map restored).flatten := by
    rw [← flatten_restored_gap hgap, ← List.flatten_append, ← List.flatten_append, ← List.map_append, ← List.map_append]
    simp
  unfold absorb
  rw [if_pos (ofRun_getLast? hfull)]
  simp only [ofRun, hcount, hend, htext, List.append_nil]

/-! ## Splitting -/

theorem Covers.cons_blank {n : ℕ} {l : Text} {ls : List Text} {ps : List Paragraph} (hl : isBlank l = true)
    (h : Covers (n + 1) ls ps) : Covers n (l :: ls) ps := by
  cases h with
  | blank h => exact .blank (List.forall_mem_cons.2 ⟨hl, h⟩)
  | @run _ gap first more rest ps hgap hfirst h =>
    have hn : n + 1 + gap.length = n + (l :: gap).length := by simp only [List.length_cons]; omega
    rw [hn] at h ⊢
    exact .run (List.forall_mem_cons.2 ⟨hl, hgap⟩) hfirst h

/-- a line that is not blank is a run of its own -/
theorem Covers.cons_run {n : ℕ} {l : Text} {ls : List Text} {ps : List Paragraph} (hl : isBlank l = false)
    (h : Covers (n + 1) ls ps) : Covers n (l :: ls) (⟨n, n, l⟩ :: ps) := by
  have hp : (⟨n, n, l⟩ : Paragraph) = ofRun n l [] := by simp [ofRun, restored_of_not_blank hl]
  rw [hp]
  exact @Covers.run n [] l [] ls ps (by simp) hl h

/-- a line that is not blank joins a run that starts right behind it -/
theorem Covers.cons_join {n : ℕ} {l : Text} {ls : List Text} {p : Paragraph} {ps : List Paragraph}
    (hl : isBlank l = false) (hp : p.lineStart = n + 1) (h : Covers (n + 1) ls (p :: ps)) :
    Covers n (l :: ls) (⟨n, p.lineEnd, l ++ p.text⟩ :: ps) := by
  cases h with
  | @run _ gap first more rest ps hgap hfirst h =>
    have hnil : gap = [] := List.length_eq_zero_iff.1 (by simp only [ofRun] at hp; omega)
    subst hnil
    have hjoin : (⟨n, (ofRun (n + 1 + 0) first more).lineEnd, l ++ (ofRun (n + 1 + 0) first more).text⟩ : Paragraph) =
        ofRun n l (first :: more) := by
      simp only [ofRun, List.map_cons, List.flatten_cons, restored_of_not_blank hl, List.length_cons,
        Paragraph.mk.injEq, and_true, true_and]
      omega
    have hn : n + 1 + 0 + (more.length + 1) = n + 0 + ((first :: more).length + 1) := by
      simp only [List.length_cons]
      omega
    rw [List.length_nil, hjoin]
    rw [List.length_nil, hn] at h
    exact @Covers.run n [] l (first :: more) rest ps (by simp) hl h

theorem covers_ofLines (n : ℕ) (ls : List Text) : Covers n ls (ofLines n ls) := by
  induction ls generalizing n with
  | nil => exact .blank (by simp)
  | cons l ls ih =>
    have h := ih (n + 1)
    rw [ofLines]
    split_ifs with hl
    · exact h.cons_blank hl
    · have hl : isBlank l = false := by simpa using hl
      split
      · rename_i p ps hps
        rw [hps] at h
        split_ifs with hp
        · exact h.cons_join hl hp
        · exact h.cons_run hl
      · rename_i hps
        rw [hps] at h
        exact h.cons_run hl

theorem covers_split (body : Text) (n : ℕ) : Covers n (lines body) (split body n) := covers_ofLines n (lines body)

/-! ## Joining -/

theorem Covers.merge {n : ℕ} {ls : List Text} {ps : List Paragraph} (h : Covers n ls ps) (hls : AreLines ls) :
    Covers n ls (merge ps) := by
  induction h with
  | blank h => exact .blank h
  | @run n gap first more rest ps hgap hfirst h ih =>
    have hm := ih hls.drop_append
    rw [Paragraph.merge]
    split
    · rename_i hnil
      rw [hnil] at hm
      exact .run hgap hfirst hm
    · rename_i next others hnext
      rw [hnext] at hm
      split_ifs with hc
      · cases hm with
        | @run _ gap' first' more' rest' _ hgap' hfirst' h' =>
          have hfull : ∀ l ∈ first :: more, IsFull l := by
            intro l hl
            have ha : AreLines ((gap ++ first :: more) ++ (gap' ++ first' :: more' ++ rest')) := hls
            cases hg : gap' ++ first' :: more' ++ rest' with
            | nil => simp at hg
            | cons y ys =>
              rw [hg] at ha
              exact ha.isFull_of_append l (by simp [List.mem_cons.1 hl])
          rw [absorb_ofRun hfull hgap']
          have hls' : gap ++ first :: more ++ (gap' ++ first' :: more' ++ rest') =
              gap ++ first :: (more ++ gap' ++ first' :: more') ++ rest' := by simp
          have hn : n + gap.length + (more.length + 1) + gap'.length + (more'.length + 1) =
              n + gap.length + ((more ++ gap' ++ first' :: more').length + 1) := by
            simp only [List.length_append, List.length_cons]
            omega
          rw [hls']
          rw [hn] at h'
          exact .run hgap hfirst h'
      · exact .run hgap hfirst hm

theorem covers_blocks (body : Text) (n : ℕ) : Covers n (lines body) (blocks body n) :=
  (covers_split body n).merge (Text.areLines_lines body)

/-! ## What a cover says of each paragraph -/

theorem Covers.mem {n : ℕ} {ls : List Text} {ps : List Paragraph} (h : Covers n ls ps) {p : Paragraph} (hp : p ∈ ps) :
    ∃ before first more rest, ls = before ++ first :: more ++ rest ∧ isBlank first = false ∧
      p = ofRun (n + before.length) first more := by
  induction h with
  | blank => cases hp
  | @run n gap first more rest ps hgap hfirst h ih =>
    rcases List.mem_cons.1 hp with rfl | hp
    · exact ⟨gap, first, more, rest, rfl, hfirst, rfl⟩
    · obtain ⟨before, first', more', rest', rfl, hf, rfl⟩ := ih hp
      refine ⟨gap ++ first :: more ++ before, first', more', rest', by simp, hf, ?_⟩
      congr 1
      simp only [List.length_append, List.length_cons]
      omega

theorem Covers.pairwise {n : ℕ} {ls : List Text} {ps : List Paragraph} (h : Covers n ls ps) :
    ps.Pairwise (fun p q => p.lineEnd < q.lineStart) := by
  induction h with
  | blank => exact .nil
  | @run n gap first more rest ps hgap hfirst h ih =>
    refine .cons (fun q hq => ?_) ih
    obtain ⟨before, first', more', -, -, -, rfl⟩ := h.mem hq
    simp only [ofRun]
    omega

end RunnableDocs.Paragraph
