/-
Joining cuts a list of paragraphs into groups and makes one paragraph of each.

`Grouped ps groups`: the groups, one behind the other, are the list; each is one paragraph that is not code, or a run of
code, and no two runs stand next to each other. `MadeOf group p`: the paragraph as it was, or the block that the run
makes (`Joined`): it reaches from the start of the first paragraph to the end of the last one, its text is their texts
with nothing but line feeds between them, and it is code itself. The paragraphs may have any texts and line numbers.

- `isIndented_absorb`: code joined with code is code, whatever the texts end in and however far apart the numbers are;
- `exists_joined`: a run makes one block;
- `grouped_iff`: there is one way to cut a list into groups;
- `Grouped.madeOf`: joining makes one paragraph of each group;
- `merge_eq_self`: where no two paragraphs of code stand next to each other, joining does nothing;
- `joining_is_by_maximal_runs`: all of this together.
-/
import Mathlib.Data.List.SplitBy
import RunnableDocs.Proofs.Layout

namespace RunnableDocs

/-! ## Text that is closed -/

namespace Text

theorem lines_feeds (k : ℕ) (t : Text) : lines (List.replicate k '\n' ++ t) = List.replicate k ['\n'] ++ lines t := by
  induction k with
  | zero => rfl
  | succ k ih =>
    rw [List.replicate_succ, List.cons_append, lines, if_pos rfl, ih, List.replicate_succ, List.cons_append]

/-- a line feed behind a text that is not complete closes its last line -/
theorem lines_append_feed {t : Text} (h : ¬ Complete t) :
    ∃ init last, IsOpen last ∧ lines t = init ++ [last] ∧ lines (t ++ ['\n']) = init ++ [last ++ ['\n']] := by
  have hne : lines t ≠ [] := lines_ne_nil fun hnil => h (Or.inl hnil)
  obtain ⟨init, last, hlines⟩ : ∃ init last, lines t = init ++ [last] :=
    ⟨_, _, (List.dropLast_append_getLast hne).symm⟩
  have hare : AreLines (init ++ [last]) := hlines ▸ areLines_lines t
  have hinit : ∀ l ∈ init, IsFull l := hare.isFull_of_append
  have htext : t = (init ++ [last]).flatten := by rw [← hlines, flatten_lines]
  rcases hare.drop_append with hfull | hopen
  · -- then the text would be complete
    refine absurd ?_ h
    rw [htext]
    refine complete_flatten fun l hl => ?_
    rcases List.mem_append.1 hl with hl | hl
    · exact hinit l hl
    · obtain rfl := List.mem_singleton.1 hl
      exact hfull
  · have hclosed : AreLines (init ++ [last ++ ['\n']]) := AreLines.append hinit (Or.inl ⟨last, hopen.2, rfl⟩)
    refine ⟨init, last, hopen, hlines, ?_⟩
    calc lines (t ++ ['\n']) = lines (init ++ [last ++ ['\n']]).flatten := by rw [htext]; simp
      _ = init ++ [last ++ ['\n']] := lines_flatten hclosed

end Text

namespace Paragraph

open Text (Complete IsOpen lines)

/-! ## Code stays code -/

theorem isIndented_iff {p : Paragraph} : p.isIndented = true ↔
    startsWithTab p.text = true ∧ ∀ l ∈ lines p.text, isBlank l = true ∨ startsWithTab l = true := by
  simp [isIndented]

theorem startsWithTab_append {t : Text} (h : startsWithTab t = true) (u : Text) : startsWithTab (t ++ u) = true := by
  unfold startsWithTab at h
  split at h
  · rfl
  · cases h

/-- the text with a line feed behind it, unless it ends in one -/
def closed (t : Text) : Text := t ++ if t.getLast? = some '\n' then [] else ['\n']

theorem absorb_text (p next : Paragraph) : (p.absorb next).text =
    closed p.text ++ (List.replicate (next.lineStart - (p.lineEnd + 1)) '\n' ++ next.text) := by
  simp only [absorb, closed, List.append_assoc]

theorem complete_closed (t : Text) : Complete (closed t) := by
  right
  unfold closed
  split_ifs with h
  · rwa [List.append_nil]
  · exact List.getLast?_concat

theorem lines_closed {t : Text} (h : ∀ l ∈ lines t, isBlank l = true ∨ startsWithTab l = true) :
    ∀ l ∈ lines (closed t), isBlank l = true ∨ startsWithTab l = true := by
  unfold closed
  split_ifs with hlast
  · rwa [List.append_nil]
  · by_cases hnil : t = []
    · subst hnil
      simp [lines, isBlank]
    · obtain ⟨init, last, hopen, hlines, hfeed⟩ := Text.lines_append_feed (not_or.2 ⟨hnil, hlast⟩)
      rw [hlines] at h
      rw [hfeed]
      intro l hl
      rcases List.mem_append.1 hl with hl | hl
      · exact h l (List.mem_append_left _ hl)
      · obtain rfl := List.mem_singleton.1 hl
        -- an open line is not blank, as blank lines have ends
        have hsolid : ¬ isBlank last = true := by
          simp only [isBlank, Bool.or_eq_true, decide_eq_true_eq, not_or]
          exact ⟨⟨hopen.1, fun e => hopen.2 (by simp [e])⟩, fun e => hopen.2 (by simp [e])⟩
        have htab := (h last (List.mem_append_right _ List.mem_cons_self)).resolve_left hsolid
        exact Or.inr (startsWithTab_append htab _)

theorem isIndented_absorb {p next : Paragraph} (hp : p.isIndented = true) (hnext : next.isIndented = true) :
    (p.absorb next).isIndented = true := by
  obtain ⟨htab, hlines⟩ := isIndented_iff.1 hp
  obtain ⟨-, hlines'⟩ := isIndented_iff.1 hnext
  rw [isIndented_iff, absorb_text, Text.lines_append (complete_closed p.text), Text.lines_feeds]
  refine ⟨startsWithTab_append (startsWithTab_append htab _) _, fun l hl => ?_⟩
  simp only [List.mem_append, List.mem_replicate] at hl
  rcases hl with hl | ⟨-, rfl⟩ | hl
  · exact lines_closed hlines l hl
  · exact Or.inl rfl
  · exact hlines' l hl

/-! ## Groups -/

/-- paragraphs of code, one at least -/
def IsRun (group : List Paragraph) : Prop := group ≠ [] ∧ ∀ p ∈ group, p.isIndented = true

/-- one paragraph that is not code, or a run of code -/
def IsGroup (group : List Paragraph) : Prop := (∃ p, group = [p] ∧ p.isIndented = false) ∨ IsRun group

structure Grouped (ps : List Paragraph) (groups : List (List Paragraph)) : Prop where
  cut : groups.flatten = ps
  kinds : ∀ g ∈ groups, IsGroup g
  /-- a run ends where code ends -/
  maximal : groups.IsChain fun g next => ¬ (IsRun g ∧ IsRun next)

/-- `whole` is the texts in their order, with nothing but line feeds between them -/
inductive Spaced : List Text → Text → Prop
  | single (t : Text) : Spaced [t] t
  | cons (t : Text) (k : ℕ) {ts : List Text} {whole : Text} (h : Spaced ts whole) :
      Spaced (t :: ts) (t ++ List.replicate k '\n' ++ whole)

/-- `p` is the block that a run makes -/
structure Joined (group : List Paragraph) (p : Paragraph) : Prop where
  indented : p.isIndented = true
  lineStart : group.head?.map Paragraph.lineStart = some p.lineStart
  lineEnd : group.getLast?.map Paragraph.lineEnd = some p.lineEnd
  text : Spaced (group.map Paragraph.text) p.text

inductive MadeOf : List Paragraph → Paragraph → Prop
  | plain {p : Paragraph} (h : p.isIndented = false) : MadeOf [p] p
  | code {group : List Paragraph} {p : Paragraph} (hrun : IsRun group) (h : Joined group p) : MadeOf group p

theorem Joined.absorb {p next : Paragraph} {group : List Paragraph} (hp : p.isIndented = true) (hne : group ≠ [])
    (h : Joined group next) : Joined (p :: group) (p.absorb next) where
  indented := isIndented_absorb hp h.indented
  lineStart := rfl
  lineEnd := by
    rw [List.getLast?_cons_of_ne_nil hne]
    exact h.lineEnd
  text := by
    obtain ⟨k, hk⟩ : ∃ k, (if p.text.getLast? = some '\n' then [] else ['\n']) ++
        List.replicate (next.lineStart - (p.lineEnd + 1)) '\n' = List.replicate k '\n' := by
      split_ifs
      · exact ⟨_, rfl⟩
      · exact ⟨_, List.replicate_succ.symm⟩
    rw [absorb_text, closed, List.append_assoc, ← List.append_assoc _ _ next.text, hk, ← List.append_assoc]
    exact .cons p.text k h.text

/-- a run makes one block -/
theorem exists_joined {group : List Paragraph} (h : IsRun group) : ∃ p, merge group = [p] ∧ Joined group p := by
  obtain ⟨hne, hcode⟩ := h
  induction group with
  | nil => exact absurd rfl hne
  | cons p group ih =>
    rw [List.forall_mem_cons] at hcode
    cases group with
    | nil => exact ⟨p, rfl, hcode.1, rfl, rfl, .single p.text⟩
    | cons q more =>
      obtain ⟨next, hmerge, hjoined⟩ := ih (List.cons_ne_nil q more) hcode.2
      refine ⟨p.absorb next, ?_, hjoined.absorb hcode.1 (List.cons_ne_nil q more)⟩
      rw [merge, hmerge]
      simp [hcode.1, hjoined.indented]

theorem Grouped.madeOf {ps : List Paragraph} {groups : List (List Paragraph)} (h : Grouped ps groups) :
    List.Forall₂ MadeOf groups (merge ps) := by
  obtain ⟨rfl, kinds, maximal⟩ := h
  induction groups with
  | nil => exact .nil
  | cons g groups ih =>
    rw [List.forall_mem_cons] at kinds
    have hrest := ih kinds.2 maximal.tail
    rw [List.flatten_cons]
    rcases kinds.1 with ⟨p, rfl, hp⟩ | hrun
    · rw [List.singleton_append, merge_cons_of_plain hp]
      exact .cons (.plain hp) hrest
    · obtain ⟨p, hmerge, hjoined⟩ := exists_joined hrun
      have hapart : ∀ q, (merge groups.flatten).head? = some q → q.isIndented = false := by
        intro q hq
        cases groups with
        | nil => cases hq
        | cons next groups =>
          have hnext : ¬ IsRun next := fun hnext => (List.isChain_cons_cons.1 maximal).1 ⟨hrun, hnext⟩
          obtain ⟨q', rfl, hq'⟩ := (kinds.2 next List.mem_cons_self).resolve_right hnext
          rw [List.flatten_cons, List.singleton_append, merge_cons_of_plain hq'] at hq
          obtain rfl := Option.some.inj hq
          exact hq'
      rw [merge_append hapart, hmerge, List.singleton_append]
      exact .cons (.code hrun hjoined) hrest

/-! ## There is one way to cut a list into groups -/

/-- both are code -/
def bothIndented (p q : Paragraph) : Bool := p.isIndented && q.isIndented

/-- two paragraphs next to each other and all behind them are code if all neighbours are -/
theorem indented_of_isChain {p q : Paragraph} {g : List Paragraph}
    (h : (p :: q :: g).IsChain fun p q => bothIndented p q = true) : ∀ x ∈ p :: q :: g, x.isIndented = true := by
  induction g generalizing p q with
  | nil =>
    have hboth := (List.isChain_cons_cons.1 h).1
    rw [bothIndented, Bool.and_eq_true] at hboth
    exact List.forall_mem_cons.2 ⟨hboth.1, by simpa using hboth.2⟩
  | cons r g ih =>
    obtain ⟨hboth, htail⟩ := List.isChain_cons_cons.1 h
    rw [bothIndented, Bool.and_eq_true] at hboth
    exact List.forall_mem_cons.2 ⟨hboth.1, ih htail⟩

theorem isGroup_iff {g : List Paragraph} :
    IsGroup g ↔ g ≠ [] ∧ g.IsChain fun p q => bothIndented p q = true := by
  constructor
  · rintro (⟨p, rfl, -⟩ | ⟨hne, hcode⟩)
    · exact ⟨List.cons_ne_nil p [], .singleton p⟩
    · refine ⟨hne, List.Pairwise.isChain (List.pairwise_of_forall_mem_list fun p hp q hq => ?_)⟩
      rw [bothIndented, hcode p hp, hcode q hq, Bool.and_self]
  · rintro ⟨hne, hchain⟩
    match g, hne, hchain with
    | [p], _, _ =>
      cases hp : p.isIndented with
      | false => exact Or.inl ⟨p, rfl, hp⟩
      | true => exact Or.inr ⟨List.cons_ne_nil p [], by simpa using hp⟩
    | p :: q :: g, hne, hchain => exact Or.inr ⟨hne, indented_of_isChain hchain⟩

/-- a group ends and the next one starts with code exactly if both are runs -/
theorem ends_apart_iff {g next : List Paragraph} (hg : IsGroup g) (hnext : IsGroup next) :
    (∃ ha hb, bothIndented (g.getLast ha) (next.head hb) = false) ↔ ¬ (IsRun g ∧ IsRun next) := by
  rcases hg with ⟨p, rfl, hp⟩ | hg
  · simp [bothIndented, IsRun, hp, (isGroup_iff.1 hnext).1]
  · rcases hnext with ⟨q, rfl, hq⟩ | hnext
    · simp [bothIndented, IsRun, hq, hg.1]
    · refine iff_of_false ?_ (not_not.2 ⟨hg, hnext⟩)
      rintro ⟨ha, hb, h⟩
      rw [bothIndented, hg.2 _ (List.getLast_mem ha), hnext.2 _ (List.head_mem hb)] at h
      cases h

/-- there is one way to cut a list into groups -/
theorem grouped_iff {ps : List Paragraph} {groups : List (List Paragraph)} :
    Grouped ps groups ↔ ps.splitBy bothIndented = groups := by
  rw [List.splitBy_eq_iff]
  constructor
  · rintro ⟨cut, kinds, maximal⟩
    refine ⟨cut.symm, fun hnil => (isGroup_iff.1 (kinds [] hnil)).1 rfl, fun g hg => (isGroup_iff.1 (kinds g hg)).2, ?_⟩
    exact maximal.imp_of_mem_imp fun g next hg hnext h => (ends_apart_iff (kinds g hg) (kinds next hnext)).2 h
  · rintro ⟨rfl, hnil, hchain, hends⟩
    have kinds : ∀ g ∈ groups, IsGroup g := fun g hg =>
      isGroup_iff.2 ⟨ne_of_mem_of_not_mem hg hnil, hchain g hg⟩
    exact ⟨rfl, kinds, hends.imp_of_mem_imp fun g next hg hnext h =>
      (ends_apart_iff (kinds g hg) (kinds next hnext)).1 h⟩

/-! ## Joining once is enough -/

theorem isChain_merge (ps : List Paragraph) :
    (merge ps).IsChain fun p q => ¬ (p.isIndented = true ∧ q.isIndented = true) := by
  induction ps with
  | nil => exact .nil
  | cons p ps ih =>
    rw [merge]
    cases hps : merge ps with
    | nil => exact .singleton p
    | cons next others =>
      rw [hps] at ih
      simp only
      split_ifs with hboth
      · rw [Bool.and_eq_true] at hboth
        rw [List.isChain_cons] at ih ⊢
        exact ⟨fun q hq hcode => ih.1 q hq ⟨hboth.2, hcode.2⟩, ih.2⟩
      · exact List.isChain_cons_cons.2 ⟨by simpa using hboth, ih⟩

theorem merge_eq_self {ps : List Paragraph}
    (h : ps.IsChain fun p q => ¬ (p.isIndented = true ∧ q.isIndented = true)) : merge ps = ps := by
  induction ps with
  | nil => rfl
  | cons p ps ih =>
    rw [merge, ih h.tail]
    cases ps with
    | nil => rfl
    | cons next ps =>
      have hboth := (List.isChain_cons_cons.1 h).1
      rw [← Bool.and_eq_true] at hboth
      simp only [if_neg hboth]

/-- **Joining is by maximal runs, and joining once is enough.** -/
theorem joining_is_by_maximal_runs (ps : List Paragraph) :
    (∃ groups, Grouped ps groups ∧ (∀ other, Grouped ps other → other = groups) ∧
      List.Forall₂ MadeOf groups (merge ps)) ∧
      ((merge ps).IsChain fun p q => ¬ (p.isIndented = true ∧ q.isIndented = true)) ∧ merge (merge ps) = merge ps := by
  have hgrouped : Grouped ps (ps.splitBy bothIndented) := grouped_iff.2 rfl
  refine ⟨⟨_, hgrouped, fun other hother => ?_, hgrouped.madeOf⟩, isChain_merge ps, merge_eq_self (isChain_merge ps)⟩
  exact (grouped_iff.1 hother).symm

end Paragraph
end RunnableDocs
