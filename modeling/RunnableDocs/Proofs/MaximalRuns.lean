/-
The paragraphs of a body are its maximal runs of lines that are not empty.

`MaximalRuns body n ps` says this of any list of paragraphs by the lines of the body and their numbers alone: a
paragraph is the text of its lines, and none of them is empty; each line that is not empty is in one paragraph and no
other; of two paragraphs that follow each other the second starts at least two lines behind the end of the first; and all
lines in front of the paragraphs, between them and behind them are empty.

- `runs_ofLines`: the lines of a body are gaps and runs in turn, and splitting gives the runs (`Runs`);
- `Runs.mem`, `Runs.covers`, `Runs.apart`: where the paragraphs of runs stand;
- `MaximalRuns.same_lines`: two paragraphs of any two such lists that have a line in common have the same lines;
- `paragraphs_are_maximal_runs`: splitting gives such a list, and there is no other one.
-/
import RunnableDocs.Proofs.Layout
import RunnableDocs.Proofs.Verbatim

namespace RunnableDocs.Paragraph

open Text (lines)

/-- a line with nothing but its end -/
def IsEmptyLine (line : Text) : Prop := line = ['\n'] ∨ line = ['\r', '\n']

/-- the line of a body that has the number `k`, its first line having the number `n` -/
def lineAt? (body : Text) (n k : ℕ) : Option Text := if n ≤ k then (lines body)[k - n]? else none

structure MaximalRuns (body : Text) (n : ℕ) (ps : List Paragraph) : Prop where
  stands : ∀ p ∈ ps, p.lineStart ≤ p.lineEnd
  /-- every line of a paragraph is a line of the body, and not empty -/
  solid : ∀ p ∈ ps, ∀ k, p.lineStart ≤ k → k ≤ p.lineEnd → ∃ l, lineAt? body n k = some l ∧ ¬ IsEmptyLine l
  /-- a paragraph reads as its lines do, one behind the other -/
  text : ∀ p ∈ ps, p.text = (linesOf body n p).flatten
  covered : ∀ k l, lineAt? body n k = some l → ¬ IsEmptyLine l →
    ∃! i : ℕ, ∃ p, ps[i]? = some p ∧ p.lineStart ≤ k ∧ k ≤ p.lineEnd
  apart : ps.IsChain fun p q => p.lineEnd + 2 ≤ q.lineStart
  front : ∀ p, ps.head? = some p → ∀ k l, k < p.lineStart → lineAt? body n k = some l → IsEmptyLine l
  between : ps.IsChain fun p q => ∀ k l, p.lineEnd < k → k < q.lineStart → lineAt? body n k = some l → IsEmptyLine l
  behind : ∀ p, ps.getLast? = some p → ∀ k l, p.lineEnd < k → lineAt? body n k = some l → IsEmptyLine l

/-! ## Gaps and runs in turn -/

/-- `ps` are the runs of the lines `ls`, numbered from `n` on -/
inductive Runs : ℕ → List Text → List Paragraph → Prop
  | blank {n : ℕ} {ls : List Text} (h : ∀ l ∈ ls, isBlank l = true) : Runs n ls []
  | run {n : ℕ} {gap : List Text} {first : Text} {more rest : List Text} {ps : List Paragraph}
      (hgap : ∀ l ∈ gap, isBlank l = true) (hrun : ∀ l ∈ first :: more, isBlank l = false) (hrest : StartsBlank rest)
      (h : Runs (n + gap.length + (more.length + 1)) rest ps) :
      Runs n (gap ++ first :: more ++ rest) (ofRun (n + gap.length) first more :: ps)

/-- the blank lines at the start of some lines, then lines that are not blank, then a blank line or nothing -/
theorem exists_run (ls : List Text) :
    (∀ l ∈ ls, isBlank l = true) ∨ ∃ gap first more rest, ls = gap ++ first :: more ++ rest ∧
      (∀ l ∈ gap, isBlank l = true) ∧ (∀ l ∈ first :: more, isBlank l = false) ∧ StartsBlank rest := by
  induction ls with
  | nil => exact Or.inl (by simp)
  | cons l ls ih =>
    by_cases hl : isBlank l = true
    · rcases ih with hblank | ⟨gap, first, more, rest, rfl, hgap, hrun, hrest⟩
      · exact Or.inl (List.forall_mem_cons.2 ⟨hl, hblank⟩)
      · exact Or.inr ⟨l :: gap, first, more, rest, rfl, List.forall_mem_cons.2 ⟨hl, hgap⟩, hrun, hrest⟩
    · have hl : isBlank l = false := by simpa using hl
      right
      rcases ih with hblank | ⟨gap, first, more, rest, rfl, hgap, hrun, hrest⟩
      · refine ⟨[], l, [], ls, rfl, by simp, by simpa using hl, fun x hx => hblank x (List.mem_of_head? hx)⟩
      · cases gap with
        | nil => exact ⟨[], l, first :: more, rest, rfl, by simp, List.forall_mem_cons.2 ⟨hl, hrun⟩, hrest⟩
        | cons g gap =>
          refine ⟨[], l, [], g :: gap ++ first :: more ++ rest, rfl, by simp, by simpa using hl, fun x hx => ?_⟩
          obtain rfl := Option.some.inj hx
          exact hgap g List.mem_cons_self

theorem runs_ofLines (n : ℕ) (ls : List Text) : Runs n ls (ofLines n ls) := by
  induction hlength : ls.length using Nat.strong_induction_on generalizing n ls with
  | h size ih =>
    subst hlength
    rcases exists_run ls with hblank | ⟨gap, first, more, rest, rfl, hgap, hrun, hrest⟩
    · have hnil : ofLines n ls = [] := by
        have := ofLines_blank hblank n []
        rwa [List.append_nil] at this
      rw [hnil]
      exact .blank hblank
    · have hshort : rest.length < (gap ++ first :: more ++ rest).length := by
        simp only [List.length_append, List.length_cons]
        omega
      have hsplit : ofLines n (gap ++ first :: more ++ rest) =
          ofRun (n + gap.length) first more :: ofLines (n + gap.length + (more.length + 1)) rest := by
        rw [List.append_assoc, ofLines_blank hgap, ofLines_append hrest, ofLines_solid hrun]
        rfl
      rw [hsplit]
      exact .run hgap hrun hrest (ih rest.length hshort _ rest rfl)

theorem Runs.mem {n : ℕ} {ls : List Text} {ps : List Paragraph} (h : Runs n ls ps) {p : Paragraph} (hp : p ∈ ps) :
    ∃ before first more rest, ls = before ++ first :: more ++ rest ∧ (∀ l ∈ first :: more, isBlank l = false) ∧
      p = ofRun (n + before.length) first more := by
  induction h with
  | blank => cases hp
  | @run n gap first more rest ps hgap hrun hrest h ih =>
    rcases List.mem_cons.1 hp with rfl | hp
    · exact ⟨gap, first, more, rest, rfl, hrun, rfl⟩
    · obtain ⟨before, first', more', rest', rfl, hrun', rfl⟩ := ih hp
      refine ⟨gap ++ first :: more ++ before, first', more', rest', by simp, hrun', ?_⟩
      congr 1
      simp only [List.length_append, List.length_cons]
      omega

theorem Runs.covers {n : ℕ} {ls : List Text} {ps : List Paragraph} (h : Runs n ls ps) {i : ℕ} {l : Text}
    (hl : ls[i]? = some l) (hsolid : isBlank l = false) : ∃ p ∈ ps, p.lineStart ≤ n + i ∧ n + i ≤ p.lineEnd := by
  induction h generalizing i with
  | blank h =>
    rw [h l (List.mem_of_getElem? hl)] at hsolid
    cases hsolid
  | @run n gap first more rest ps hgap hrun hrest h ih =>
    by_cases hbefore : i < gap.length
    · -- then the line would be in the gap
      rw [List.append_assoc, List.getElem?_append_left hbefore] at hl
      rw [hgap l (List.mem_of_getElem? hl)] at hsolid
      cases hsolid
    · by_cases hinside : i < gap.length + (more.length + 1)
      · refine ⟨_, List.mem_cons_self, ?_, ?_⟩
        · simp only [ofRun]
          omega
        · simp only [ofRun]
          omega
      · obtain ⟨j, rfl⟩ : ∃ j, i = (gap ++ first :: more).length + j := by
          refine ⟨i - (gap ++ first :: more).length, ?_⟩
          simp only [List.length_append, List.length_cons]
          omega
        rw [List.getElem?_append_right (Nat.le_add_right _ _), Nat.add_sub_cancel_left] at hl
        obtain ⟨p, hp, hstart, hend⟩ := ih hl
        have hnumber : n + gap.length + (more.length + 1) + j = n + ((gap ++ first :: more).length + j) := by
          simp only [List.length_append, List.length_cons]
          omega
        rw [hnumber] at hstart hend
        exact ⟨p, List.mem_cons_of_mem _ hp, hstart, hend⟩

/-- a paragraph of lines that start with a blank one, or none, does not start on the first of them -/
theorem Runs.lt_lineStart {n : ℕ} {ls : List Text} {ps : List Paragraph} (h : Runs n ls ps) (hls : StartsBlank ls)
    {p : Paragraph} (hp : p ∈ ps) : n < p.lineStart := by
  obtain ⟨before, first, more, rest, rfl, hrun, rfl⟩ := h.mem hp
  cases before with
  | nil =>
    have hblank := hls first rfl
    rw [hrun first List.mem_cons_self] at hblank
    cases hblank
  | cons l before =>
    simp only [ofRun, List.length_cons]
    omega

theorem Runs.apart {n : ℕ} {ls : List Text} {ps : List Paragraph} (h : Runs n ls ps) :
    ps.Pairwise fun p q => p.lineEnd + 2 ≤ q.lineStart := by
  induction h with
  | blank => exact .nil
  | @run n gap first more rest ps hgap hrun hrest h ih =>
    refine .cons (fun q hq => ?_) ih
    have hstart := h.lt_lineStart hrest hq
    simp only [ofRun]
    omega

/-! ## Lines by their numbers -/

theorem isBlank_eq_false_iff {body : Text} {n k : ℕ} {l : Text} (h : lineAt? body n k = some l) :
    isBlank l = false ↔ ¬ IsEmptyLine l := by
  have hmem : l ∈ lines body := by
    unfold lineAt? at h
    split_ifs at h
    exact List.mem_of_getElem? h
  have hne : l ≠ [] := (Text.areLines_lines body).ne_nil hmem
  simp [isBlank, IsEmptyLine, hne]

theorem lineAt?_eq_some_iff {body : Text} {n k : ℕ} {l : Text} :
    lineAt? body n k = some l ↔ ∃ i, k = n + i ∧ (lines body)[i]? = some l := by
  unfold lineAt?
  constructor
  · intro h
    split_ifs at h with hk
    exact ⟨k - n, by omega, h⟩
  · rintro ⟨i, rfl, h⟩
    rw [if_pos (Nat.le_add_right n i), Nat.add_sub_cancel_left, h]

/-! ## Maximal runs -/

section
variable {body : Text} {n : ℕ} {ps qs : List Paragraph}

/-- of two paragraphs of one list, one ends before the line in front of the other -/
theorem MaximalRuns.pairwise (h : MaximalRuns body n ps) : ps.Pairwise fun p q => p.lineEnd + 2 ≤ q.lineStart := by
  have hchain := h.apart
  have hstands := h.stands
  clear h
  induction ps with
  | nil => exact .nil
  | cons p ps ih =>
    rw [List.forall_mem_cons] at hstands
    have hps := ih hchain.tail hstands.2
    refine .cons (fun q hq => ?_) hps
    cases ps with
    | nil => cases hq
    | cons next ps =>
      have hnext := (List.isChain_cons_cons.1 hchain).1
      rcases List.mem_cons.1 hq with rfl | hq
      · exact hnext
      · have hlast := (List.pairwise_cons.1 hps).1 q hq
        have hmiddle := hstands.2 next List.mem_cons_self
        omega

/-- no two paragraphs have a line in common -/
theorem index_unique (h : ps.Pairwise fun p q => p.lineEnd + 2 ≤ q.lineStart) {i j k : ℕ} {p q : Paragraph}
    (hi : ps[i]? = some p) (hj : ps[j]? = some q) (hp : p.lineStart ≤ k ∧ k ≤ p.lineEnd)
    (hq : q.lineStart ≤ k ∧ k ≤ q.lineEnd) : i = j := by
  obtain ⟨hilt, rfl⟩ := List.getElem?_eq_some_iff.1 hi
  obtain ⟨hjlt, rfl⟩ := List.getElem?_eq_some_iff.1 hj
  rcases Nat.lt_trichotomy i j with hij | hij | hij
  · have := List.pairwise_iff_getElem.1 h i j hilt hjlt hij
    omega
  · exact hij
  · have := List.pairwise_iff_getElem.1 h j i hjlt hilt hij
    omega

/-- the line in front of a paragraph is empty, and so is the one behind it -/
theorem MaximalRuns.beside (h : MaximalRuns body n ps) {p : Paragraph} (hp : p ∈ ps) {k : ℕ} {l : Text}
    (hk : k + 1 = p.lineStart ∨ k = p.lineEnd + 1) (hl : lineAt? body n k = some l) : IsEmptyLine l := by
  by_contra hsolid
  obtain ⟨j, ⟨q, hj, hstart, hend⟩, -⟩ := h.covered k l hl hsolid
  have hstands := h.stands p hp
  obtain ⟨i, hi⟩ := List.mem_iff_getElem?.1 hp
  obtain ⟨hilt, rfl⟩ := List.getElem?_eq_some_iff.1 hi
  obtain ⟨hjlt, rfl⟩ := List.getElem?_eq_some_iff.1 hj
  rcases Nat.lt_trichotomy i j with hij | rfl | hij
  · have := List.pairwise_iff_getElem.1 h.pairwise i j hilt hjlt hij
    omega
  · omega
  · have := List.pairwise_iff_getElem.1 h.pairwise j i hjlt hilt hij
    omega

/-- a paragraph has every line of another one that it has one line of, be the other one of another list -/
theorem MaximalRuns.within (h : MaximalRuns body n ps) (h' : MaximalRuns body n qs) {p q : Paragraph} (hp : p ∈ ps)
    (hq : q ∈ qs) {k : ℕ} (hpk : p.lineStart ≤ k ∧ k ≤ p.lineEnd) (hqk : q.lineStart ≤ k ∧ k ≤ q.lineEnd) :
    p.lineStart ≤ q.lineStart ∧ q.lineEnd ≤ p.lineEnd := by
  constructor
  · by_contra hlt
    -- then the other paragraph would have the empty line in front of this one
    obtain ⟨l, hl, hsolid⟩ := h'.solid q hq (p.lineStart - 1) (by omega) (by omega)
    exact hsolid (h.beside hp (Or.inl (by omega)) hl)
  · by_contra hlt
    obtain ⟨l, hl, hsolid⟩ := h'.solid q hq (p.lineEnd + 1) (by omega) (by omega)
    exact hsolid (h.beside hp (Or.inr rfl) hl)

theorem MaximalRuns.same_lines (h : MaximalRuns body n ps) (h' : MaximalRuns body n qs) {p q : Paragraph} (hp : p ∈ ps)
    (hq : q ∈ qs) {k : ℕ} (hpk : p.lineStart ≤ k ∧ k ≤ p.lineEnd) (hqk : q.lineStart ≤ k ∧ k ≤ q.lineEnd) : p = q := by
  obtain ⟨hstart, hend⟩ := h.within h' hp hq hpk hqk
  obtain ⟨hstart', hend'⟩ := h'.within h hq hp hqk hpk
  have hs : p.lineStart = q.lineStart := le_antisymm hstart hstart'
  have he : p.lineEnd = q.lineEnd := le_antisymm hend' hend
  have htext : p.text = q.text :=
    calc p.text = (linesOf body n p).flatten := h.text p hp
      _ = (linesOf body n q).flatten := by simp only [linesOf, hs, he]
      _ = q.text := (h'.text q hq).symm
  cases p
  cases q
  simp_all

/-- a paragraph of one list is in the other one -/
theorem MaximalRuns.subset (h : MaximalRuns body n ps) (h' : MaximalRuns body n qs) : ps ⊆ qs := by
  intro p hp
  have hstands := h.stands p hp
  obtain ⟨l, hl, hsolid⟩ := h.solid p hp p.lineStart le_rfl hstands
  obtain ⟨i, ⟨q, hq, hstart, hend⟩, -⟩ := h'.covered p.lineStart l hl hsolid
  have hq := List.mem_of_getElem? hq
  obtain rfl := h.same_lines h' hp hq ⟨le_rfl, hstands⟩ ⟨hstart, hend⟩
  exact hq

theorem MaximalRuns.lineStart_lt (h : MaximalRuns body n ps) : ps.Pairwise fun p q => p.lineStart < q.lineStart := by
  refine h.pairwise.imp_of_mem fun hp _ hpq => ?_
  have := h.stands _ hp
  omega

/-- **There is one list of maximal runs.** -/
theorem MaximalRuns.unique (h : MaximalRuns body n ps) (h' : MaximalRuns body n qs) : ps = qs := by
  have : Std.Irrefl fun p q : Paragraph => p.lineStart < q.lineStart := ⟨fun p => lt_irrefl p.lineStart⟩
  have : Std.Antisymm fun p q : Paragraph => p.lineStart < q.lineStart := ⟨fun p q hpq hqp => absurd hqp hpq.asymm⟩
  exact h.lineStart_lt.eq_of_mem_iff h'.lineStart_lt fun p => ⟨fun hp => h.subset h' hp, fun hp => h'.subset h hp⟩

/-- paragraphs far enough apart that have all lines that are not empty leave only empty lines around them -/
theorem maximalRuns_of_pairwise (stands : ∀ p ∈ ps, p.lineStart ≤ p.lineEnd)
    (solid : ∀ p ∈ ps, ∀ k, p.lineStart ≤ k → k ≤ p.lineEnd → ∃ l, lineAt? body n k = some l ∧ ¬ IsEmptyLine l)
    (text : ∀ p ∈ ps, p.text = (linesOf body n p).flatten)
    (covers : ∀ k l, lineAt? body n k = some l → ¬ IsEmptyLine l → ∃ p ∈ ps, p.lineStart ≤ k ∧ k ≤ p.lineEnd)
    (apart : ps.Pairwise fun p q => p.lineEnd + 2 ≤ q.lineStart) : MaximalRuns body n ps := by
  have hempty : ∀ k l, (∀ p ∈ ps, k < p.lineStart ∨ p.lineEnd < k) → lineAt? body n k = some l → IsEmptyLine l := by
    intro k l hout hl
    by_contra hsolid
    obtain ⟨p, hp, hstart, hend⟩ := covers k l hl hsolid
    have := hout p hp
    omega
  refine ⟨stands, solid, text, fun k l hl hsolid => ?_, List.Pairwise.isChain apart, fun p hp k l hk => ?_, ?_,
    fun p hp k l hk => ?_⟩
  · obtain ⟨p, hp, hk⟩ := covers k l hl hsolid
    obtain ⟨i, hi⟩ := List.mem_iff_getElem?.1 hp
    refine ⟨i, ⟨p, hi, hk⟩, ?_⟩
    rintro j ⟨q, hj, hq⟩
    exact index_unique apart hj hi hq hk
  · obtain ⟨rest, rfl⟩ := List.head?_eq_some_iff.1 hp
    refine hempty k l (List.forall_mem_cons.2 ⟨Or.inl hk, fun q hq => ?_⟩)
    have := (List.pairwise_cons.1 apart).1 q hq
    have := stands p List.mem_cons_self
    omega
  · refine List.isChain_iff_forall_rel_of_append_cons_cons.2 fun {p q before rest} hps k l hstart hend => ?_
    subst hps
    obtain ⟨-, htail, hbefore⟩ := List.pairwise_append.1 apart
    obtain ⟨hq, hrest⟩ := List.pairwise_cons.1 (List.pairwise_cons.1 htail).2
    have hp := stands p (List.mem_append_right _ List.mem_cons_self)
    have hqs := stands q (List.mem_append_right _ (List.mem_cons_of_mem _ List.mem_cons_self))
    refine hempty k l fun r hr => ?_
    rcases List.mem_append.1 hr with hr | hr
    · have := hbefore r hr p List.mem_cons_self
      omega
    · rcases List.mem_cons.1 hr with rfl | hr
      · exact Or.inr hstart
      · rcases List.mem_cons.1 hr with rfl | hr
        · exact Or.inl hend
        · have := hq r hr
          omega
  · obtain ⟨init, rfl⟩ := List.getLast?_eq_some_iff.1 hp
    have hstands := stands p (List.mem_append_right _ List.mem_cons_self)
    refine hempty k l fun q hq => ?_
    rcases List.mem_append.1 hq with hq | hq
    · have := (List.pairwise_append.1 apart).2.2 q hq p List.mem_cons_self
      omega
    · obtain rfl := List.mem_singleton.1 hq
      exact Or.inr hk

end

/-- the lines of a run are the lines of the body that have its numbers -/
theorem lineAt?_ofRun {body : Text} {before more rest : List Text} {first : Text} (n : ℕ)
    (h : lines body = before ++ first :: more ++ rest) {k : ℕ} (hstart : n + before.length ≤ k)
    (hend : k ≤ n + before.length + more.length) : ∃ l ∈ first :: more, lineAt? body n k = some l := by
  obtain ⟨i, rfl⟩ : ∃ i, k = n + (before.length + i) := ⟨k - (n + before.length), by omega⟩
  have hi : i < (first :: more).length := by
    rw [List.length_cons]
    omega
  refine ⟨(first :: more)[i], List.getElem_mem hi, lineAt?_eq_some_iff.2 ⟨_, rfl, ?_⟩⟩
  rw [h, List.append_assoc, List.getElem?_append_right (Nat.le_add_right _ _), Nat.add_sub_cancel_left,
    List.getElem?_append_left hi, List.getElem?_eq_getElem hi]

theorem maximalRuns_split (body : Text) (n : ℕ) : MaximalRuns body n (split body n) := by
  have hruns : Runs n (lines body) (split body n) := runs_ofLines n (lines body)
  refine maximalRuns_of_pairwise (fun p hp => ?_) (fun p hp k hstart hend => ?_) (fun p hp => ?_)
    (fun k l hl hsolid => ?_) hruns.apart
  · obtain ⟨before, first, more, rest, -, -, rfl⟩ := hruns.mem hp
    exact Nat.le_add_right _ _
  · obtain ⟨before, first, more, rest, hbody, hrun, rfl⟩ := hruns.mem hp
    obtain ⟨l, hmem, hl⟩ := lineAt?_ofRun n hbody hstart hend
    exact ⟨l, hl, (isBlank_eq_false_iff hl).1 (hrun l hmem)⟩
  · obtain ⟨before, first, more, rest, hbody, hrun, rfl⟩ := hruns.mem hp
    have hself : (first :: more).map restored = (first :: more).map id :=
      List.map_congr_left fun l hl => restored_of_not_blank (hrun l hl)
    rw [linesOf_ofRun hbody]
    simp only [ofRun, hself, List.map_id]
  · obtain ⟨i, rfl, hi⟩ := lineAt?_eq_some_iff.1 hl
    exact hruns.covers hi ((isBlank_eq_false_iff hl).2 hsolid)

/-- **Paragraphs are the maximal runs of lines that are not empty, and nothing else is.** -/
theorem paragraphs_are_maximal_runs (body : Text) (n : ℕ) (ps : List Paragraph) :
    ps = split body n ↔ MaximalRuns body n ps := by
  constructor
  · rintro rfl
    exact maximalRuns_split body n
  · intro h
    exact h.unique (maximalRuns_split body n)

end RunnableDocs.Paragraph
