/-
Paragraphs that are laid out with blank lines between them, and the blocks that come of them.

`Laid n ls ps`: the lines `ls`, numbered from `n` on, are blank lines, running text and code, with a blank line behind
each piece unless it is the last, and no two pieces of code next to each other; `ps` are their paragraphs. A piece of
code may hold blank lines, but neither starts nor ends in one.

- `ofLines_append`: lines that are cut at a blank line are read apart from each other;
- `merge_append`: blocks in front of a paragraph that is not code are joined apart from what follows;
- `Covers.merge_code`: blocks of code with nothing else between them all become one;
- `Laid.merge_ofLines`: hence lines that are laid out come back as the paragraphs that were laid out.
-/
import RunnableDocs.Proofs.Coverage

namespace RunnableDocs.Paragraph

open Text (AreLines lines)

/-- nothing follows, or a blank line does -/
def StartsBlank (ls : List Text) : Prop := ∀ l, ls.head? = some l → isBlank l = true

/-- lines of running text: none is blank, and the first does not start with a tab -/
structure IsProse (first : Text) (more : List Text) : Prop where
  solid : ∀ l ∈ first :: more, isBlank l = false
  plain : startsWithTab first = false

/-- lines of code: each is blank or starts with a tab, and blank lines are inside only -/
structure IsCode (first : Text) (more : List Text) : Prop where
  indented : ∀ l ∈ first :: more, isBlank l = true ∨ startsWithTab l = true
  first : startsWithTab first = true
  last : ∀ l, more.getLast? = some l → isBlank l = false

inductive Laid : ℕ → List Text → List Paragraph → Prop
  | blank {n : ℕ} {ls : List Text} (h : ∀ l ∈ ls, isBlank l = true) : Laid n ls []
  | prose {n : ℕ} {gap : List Text} {first : Text} {more rest : List Text} {ps : List Paragraph}
      (hgap : ∀ l ∈ gap, isBlank l = true) (hrun : IsProse first more) (hrest : StartsBlank rest)
      (h : Laid (n + gap.length + (more.length + 1)) rest ps) :
      Laid n (gap ++ first :: more ++ rest) (ofRun (n + gap.length) first more :: ps)
  | code {n : ℕ} {gap : List Text} {first : Text} {more rest : List Text} {ps : List Paragraph}
      (hgap : ∀ l ∈ gap, isBlank l = true) (hrun : IsCode first more) (hrest : StartsBlank rest)
      (hnext : ∀ p, ps.head? = some p → startsWithTab p.text = false)
      (h : Laid (n + gap.length + (more.length + 1)) rest ps) :
      Laid n (gap ++ first :: more ++ rest) (ofRun (n + gap.length) first more :: ps)

/-! ## Reading lines apart -/

theorem ofLines_blank {gap : List Text} (h : ∀ l ∈ gap, isBlank l = true) (n : ℕ) (rest : List Text) :
    ofLines n (gap ++ rest) = ofLines (n + gap.length) rest := by
  induction gap generalizing n with
  | nil => rfl
  | cons l gap ih =>
    rw [List.cons_append, ofLines, if_pos (h l List.mem_cons_self), ih fun x hx => h x (List.mem_cons_of_mem l hx)]
    congr 1
    rw [List.length_cons]
    omega

theorem le_lineStart_ofLines {n : ℕ} {ls : List Text} {p : Paragraph} (hp : p ∈ ofLines n ls) : n ≤ p.lineStart := by
  obtain ⟨before, first, more, rest, -, -, rfl⟩ := (covers_ofLines n ls).mem hp
  exact Nat.le_add_right n before.length

/-- behind a blank line the first paragraph does not start at once -/
theorem lt_lineStart_ofLines {n : ℕ} {ls : List Text} (h : StartsBlank ls) {p : Paragraph} (hp : p ∈ ofLines n ls) :
    n < p.lineStart := by
  cases ls with
  | nil => cases hp
  | cons l ls =>
    rw [ofLines, if_pos (h l rfl)] at hp
    exact le_lineStart_ofLines hp

/-- a paragraph that does not start on the next line is left apart from this one -/
theorem ofLines_cons_apart {n : ℕ} {line : Text} {more : List Text} (hline : isBlank line = false)
    (h : ∀ p ∈ ofLines (n + 1) more, n + 1 < p.lineStart) :
    ofLines n (line :: more) = ⟨n, n, line⟩ :: ofLines (n + 1) more := by
  rw [ofLines, if_neg (by simp [hline])]
  split
  · rename_i p others hp
    have hlt := h p (by rw [hp]; exact List.mem_cons_self)
    rw [if_neg (by omega), hp]
  · rename_i hnil
    rw [hnil]

theorem ofLines_append {ls rest : List Text} (hrest : StartsBlank rest) (n : ℕ) :
    ofLines n (ls ++ rest) = ofLines n ls ++ ofLines (n + ls.length) rest := by
  induction ls generalizing n with
  | nil => rfl
  | cons line more ih =>
    have hn : n + (line :: more).length = n + 1 + more.length := by
      rw [List.length_cons]
      omega
    rw [List.cons_append, hn]
    by_cases hblank : isBlank line = true
    · rw [ofLines, if_pos hblank, ofLines, if_pos hblank, ih]
    · cases hmore : ofLines (n + 1) more with
      | nil =>
        -- what follows starts behind the blank line at the cut
        have hfollow : ofLines (n + 1) (more ++ rest) = ofLines (n + 1 + more.length) rest := by rw [ih, hmore]; rfl
        have hline : isBlank line = false := by simpa using hblank
        rw [ofLines_cons_apart hline, ofLines_cons_apart hline, hmore, hfollow]
        · rfl
        · rw [hmore]
          exact fun p hp => absurd hp (List.not_mem_nil)
        · intro p hp
          rw [hfollow] at hp
          have := lt_lineStart_ofLines hrest hp
          omega
      | cons p others =>
        rw [ofLines, if_neg hblank, ofLines, if_neg hblank, ih, hmore]
        simp only [List.cons_append]
        split_ifs <;> rfl

theorem ofLines_solid {first : Text} {more : List Text} (h : ∀ l ∈ first :: more, isBlank l = false) (n : ℕ) :
    ofLines n (first :: more) = [ofRun n first more] := by
  induction more generalizing n first with
  | nil =>
    have hf := h first List.mem_cons_self
    simp [ofLines, ofRun, hf, restored_of_not_blank hf]
  | cons line more ih =>
    have hf := h first List.mem_cons_self
    rw [ofLines, if_neg (by simp [hf]), ih fun l hl => h l (List.mem_cons_of_mem first hl)]
    simp only [ofRun, if_true, List.map_cons, List.flatten_cons, restored_of_not_blank hf, List.length_cons]
    congr 2
    omega

/-! ## Joining blocks apart -/

theorem not_blank_of_startsWithTab {l : Text} (h : startsWithTab l = true) : isBlank l = false := by
  unfold startsWithTab at h
  split at h
  · simp [isBlank]
  · cases h

theorem startsWithTab_ofRun {n : ℕ} {first : Text} {more : List Text} (h : isBlank first = false) :
    startsWithTab (ofRun n first more).text = startsWithTab first := by
  rw [ofRun, List.map_cons, List.flatten_cons, restored_of_not_blank h]
  cases first with
  | nil => cases h
  | cons c first => by_cases hc : c = '\t' <;> simp [startsWithTab, hc]

theorem isIndented_of_plain {p : Paragraph} (h : startsWithTab p.text = false) : p.isIndented = false := by
  simp [isIndented, h]

theorem merge_cons_of_plain {p : Paragraph} (h : p.isIndented = false) (ps : List Paragraph) :
    merge (p :: ps) = p :: merge ps := by
  rw [merge]
  split
  · rename_i hnil
    rw [hnil]
  · rename_i next others hnext
    simp [h, hnext]

theorem merge_append {ps qs : List Paragraph} (h : ∀ q, (merge qs).head? = some q → q.isIndented = false) :
    merge (ps ++ qs) = merge ps ++ merge qs := by
  induction ps with
  | nil => rfl
  | cons p ps ih =>
    rw [List.cons_append, merge, merge, ih]
    cases hps : merge ps with
    | cons next others =>
      simp only [List.cons_append]
      split_ifs <;> rfl
    | nil =>
      cases hqs : merge qs with
      | nil => rfl
      | cons next others =>
        have hnext : next.isIndented = false := h next (by rw [hqs]; rfl)
        simp [hnext]

/-- what covers lines of code is code -/
theorem Covers.indented {n : ℕ} {ls : List Text} {ps : List Paragraph} (h : Covers n ls ps) (hls : AreLines ls)
    (hcode : ∀ l ∈ ls, isBlank l = true ∨ startsWithTab l = true) {p : Paragraph} (hp : p ∈ ps) :
    p.isIndented = true := by
  obtain ⟨before, first, more, rest, rfl, hfirst, rfl⟩ := h.mem hp
  have hrun : ∀ l ∈ first :: more, isBlank l = true ∨ startsWithTab l = true := fun l hl =>
    hcode l (List.mem_append_left rest (List.mem_append_right before hl))
  have htab : startsWithTab first = true := (hrun first List.mem_cons_self).resolve_left (by simp [hfirst])
  rw [isIndented, lines_ofRun hls.append_left.drop_append, Bool.and_eq_true, List.all_eq_true]
  constructor
  · rw [startsWithTab_ofRun hfirst, htab]
  · intro l hl
    obtain ⟨x, hx, rfl⟩ := List.mem_map.1 hl
    by_cases hb : isBlank x = true
    · rw [restored_of_blank hb]
      rfl
    · have hb : isBlank x = false := by simpa using hb
      rw [restored_of_not_blank hb, (hrun x hx).resolve_left (by simp [hb]), Bool.or_true]

theorem Covers.merge_code {n : ℕ} {ls : List Text} {ps : List Paragraph} (h : Covers n ls ps) (hls : AreLines ls)
    (hcode : ∀ l ∈ ls, isBlank l = true ∨ startsWithTab l = true) : (Paragraph.merge ps).length ≤ 1 := by
  induction h with
  | blank => exact Nat.zero_le 1
  | @run n gap first more rest ps hgap hfirst h ih =>
    have hrest : ∀ l ∈ rest, isBlank l = true ∨ startsWithTab l = true := fun l hl =>
      hcode l (List.mem_append_right _ hl)
    have hlen := ih hls.drop_append hrest
    have hp : (ofRun (n + gap.length) first more).isIndented = true :=
      (Covers.run hgap hfirst h).indented hls hcode List.mem_cons_self
    rw [Paragraph.merge]
    split
    · exact le_rfl
    · rename_i next others hnext
      rw [hnext] at hlen
      have hn : next.isIndented = true :=
        (h.merge hls.drop_append).indented hls.drop_append hrest (by rw [hnext]; exact List.mem_cons_self)
      rw [hp, hn]
      exact hlen

theorem merge_ofLines_code {first : Text} {more : List Text} (h : IsCode first more) (hls : AreLines (first :: more))
    (n : ℕ) : merge (ofLines n (first :: more)) = [ofRun n first more] := by
  have hcovers := (covers_ofLines n (first :: more)).merge hls
  have hlen := (covers_ofLines n (first :: more)).merge_code hls h.indented
  have hfirst : isBlank first = false := not_blank_of_startsWithTab h.first
  generalize merge (ofLines n (first :: more)) = ps at hcovers hlen
  generalize hrun : first :: more = run at hcovers
  cases hcovers with
  | blank hblank =>
    rw [hblank first (by rw [← hrun]; exact List.mem_cons_self)] at hfirst
    cases hfirst
  | @run _ gap first' more' rest ps hgap hfirst' hrest =>
    -- nothing is in front of the block, as the first line is not blank
    obtain rfl : gap = [] := by
      cases gap with
      | nil => rfl
      | cons l gap =>
        obtain ⟨rfl, -⟩ := List.cons.inj hrun
        rw [hgap first List.mem_cons_self] at hfirst
        cases hfirst
    obtain ⟨rfl, hmore⟩ := List.cons.inj hrun
    obtain rfl : ps = [] := List.length_eq_zero_iff.1 (by simpa using hlen)
    -- and nothing but blank lines is behind it, so nothing is, as the last line is not blank
    obtain rfl : rest = [] := by
      cases hrest with
      | blank hblank =>
        by_contra hne
        obtain ⟨l, hl⟩ := Option.ne_none_iff_exists'.1 (mt List.getLast?_eq_none_iff.1 hne)
        have hlast : more.getLast? = some l := by
          rw [hmore, ← hl]
          exact List.getLast?_append_of_ne_nil more' hne
        have := h.last l hlast
        rw [hblank l (List.mem_of_mem_getLast? hl)] at this
        cases this
    rw [hmore]
    simp

/-- **Lines that are laid out come back as the paragraphs that were laid out.** -/
theorem Laid.merge_ofLines {n : ℕ} {ls : List Text} {ps : List Paragraph} (h : Laid n ls ps) (hls : AreLines ls) :
    merge (ofLines n ls) = ps := by
  induction h with
  | @blank n ls h =>
    have := ofLines_blank h n []
    rw [List.append_nil] at this
    rw [this]
    rfl
  | @prose n gap first more rest ps hgap hrun hrest h ih =>
    have hps := ih hls.drop_append
    rw [List.append_assoc, ofLines_blank hgap, ofLines_append hrest, ofLines_solid hrun.solid, List.singleton_append,
      merge_cons_of_plain]
    · rw [List.length_cons, hps]
    · refine isIndented_of_plain ?_
      rw [startsWithTab_ofRun (hrun.solid first List.mem_cons_self), hrun.plain]
  | @code n gap first more rest ps hgap hrun hrest hnext h ih =>
    have hps := ih hls.drop_append
    have hblock : AreLines (first :: more) := by
      rw [List.append_assoc] at hls
      exact hls.drop_append.append_left
    rw [List.append_assoc, ofLines_blank hgap, ofLines_append hrest, List.length_cons, merge_append, hps,
      merge_ofLines_code hrun hblock, List.singleton_append]
    rw [hps]
    exact fun p hp => isIndented_of_plain (hnext p hp)

end RunnableDocs.Paragraph
