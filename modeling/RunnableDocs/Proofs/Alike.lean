/-
Two bodies that are parsed alike.

Merging and extraction look at a paragraph in few ways: whether it starts with a tab, whether it is a block of code,
whether it is a marker, and what it declares. A relation between paragraphs under which these answers are the same, and
which joining blocks keeps, is a `Likeness`. Of two lists that are related paragraph by paragraph, merging gives related
lists (`merge_forall₂`), and extraction takes the same branches on both (`ofParagraphs_alike`).
-/
import RunnableDocs.Proofs.Extraction

namespace RunnableDocs

open Paragraph (merge startsWithTab)

/-- parsing cannot tell related paragraphs apart, and blocks made of related ones are related -/
structure Paragraph.Likeness (extensions : List Text) (R : Paragraph → Paragraph → Prop) : Prop where
  tab : ∀ {p q}, R p q → startsWithTab q.text = startsWithTab p.text
  indented : ∀ {p q}, R p q → q.isIndented = p.isIndented
  marker : ∀ {p q}, R p q → q.isOutputMarker = p.isOutputMarker
  declares : ∀ {p q}, R p q → Declaration.ofText? extensions q.text = Declaration.ofText? extensions p.text
  absorb : ∀ {p q p' q'}, R p q → R p' q' → R (p.absorb p') (q.absorb q')

/-- related code and related outputs make related programs -/
def Program.MadeAlike (R : Paragraph → Paragraph → Prop) (S : Program → Program → Prop) : Prop :=
  ∀ d p q o o', R p q → Option.Rel R o o' → S (ofParagraph d p o) (ofParagraph d q o')

variable {extensions : List Text} {R : Paragraph → Paragraph → Prop} {S : Program → Program → Prop}

namespace Paragraph

theorem merge_forall₂ (hR : Likeness extensions R) {ps qs : List Paragraph} (h : List.Forall₂ R ps qs) :
    List.Forall₂ R (merge ps) (merge qs) := by
  induction h with
  | nil => exact .nil
  | @cons p q ps qs hpq _ ih =>
    rw [merge, merge]
    generalize merge ps = ms at ih ⊢
    generalize merge qs = ms' at ih ⊢
    cases ih with
    | nil => exact .cons hpq .nil
    | cons hnext hothers =>
      simp only [hR.indented hpq, hR.indented hnext]
      split_ifs
      · exact .cons (hR.absorb hpq hnext) hothers
      · exact .cons hpq (.cons hnext hothers)

end Paragraph

namespace Program

theorem after_forall₂ (hR : Paragraph.Likeness extensions R) (hS : MadeAlike R S) {previous previous' : Paragraph}
    {ps qs : List Paragraph} (hprevious : R previous previous') (h : List.Forall₂ R ps qs) :
    List.Forall₂ S (after extensions previous ps) (after extensions previous' qs) := by
  fun_induction after extensions previous ps generalizing previous' qs with
  | case1 previous =>
    cases h
    exact .nil
  | case2 previous p ps hp hd ih =>
    obtain ⟨q, qs, hpq, hqs, rfl⟩ := List.forall₂_cons_left_iff.1 h
    rw [after_undeclared ((hR.declares hprevious).trans hd)]
    exact ih hpq hqs
  | case3 previous p hp d hd marker output rest hm ih =>
    obtain ⟨hmarker, houtput⟩ : marker.isOutputMarker = true ∧ output.opensCode = true := by simpa using hm
    obtain ⟨q, _, hpq, hqs, rfl⟩ := List.forall₂_cons_left_iff.1 h
    obtain ⟨marker', _, hmark, hmore, rfl⟩ := List.forall₂_cons_left_iff.1 hqs
    obtain ⟨output', rest', hout, hrest, rfl⟩ := List.forall₂_cons_left_iff.1 hmore
    rw [after_with_output ((hR.tab hpq).trans hp) ((hR.declares hprevious).trans hd)
      ((hR.marker hmark).trans hmarker) ((hR.tab hout).trans houtput)]
    exact .cons (hS d _ _ _ _ hpq (.some hout)) (ih hout hrest)
  | case4 previous p hp d hd marker output rest hm ih =>
    obtain ⟨q, qs, hpq, hqs, rfl⟩ := List.forall₂_cons_left_iff.1 h
    rw [after_alone ((hR.tab hpq).trans hp) ((hR.declares hprevious).trans hd)]
    · exact .cons (hS d _ _ _ _ hpq .none) (ih hpq hqs)
    · rintro marker' output' rest' rfl
      obtain ⟨hmark, hmore⟩ := List.forall₂_cons.1 hqs
      rw [hR.marker hmark, hR.tab (List.forall₂_cons.1 hmore).1]
      simpa [Paragraph.opensCode] using hm
  | case5 previous p hp d hd ps hps ih =>
    obtain ⟨q, qs, hpq, hqs, rfl⟩ := List.forall₂_cons_left_iff.1 h
    rw [after_alone ((hR.tab hpq).trans hp) ((hR.declares hprevious).trans hd)]
    · exact .cons (hS d _ _ _ _ hpq .none) (ih hpq hqs)
    · rintro marker' output' rest' rfl
      obtain ⟨marker, _, -, hrest, rfl⟩ := List.forall₂_cons_right_iff.1 hqs
      obtain ⟨output, rest, -, -, rfl⟩ := List.forall₂_cons_right_iff.1 hrest
      exact absurd rfl (hps marker output rest)
  | case6 previous p ps hp ih =>
    obtain ⟨q, qs, hpq, hqs, rfl⟩ := List.forall₂_cons_left_iff.1 h
    have hp' : startsWithTab p.text = false := by simpa [Paragraph.opensCode] using hp
    rw [after_plain ((hR.tab hpq).trans hp')]
    exact ih hpq hqs

/-- of related bodies, either both start with code, or both have programs, and these are related -/
theorem ofParagraphs_alike (hR : Paragraph.Likeness extensions R) (hS : MadeAlike R S) {ps qs : List Paragraph}
    (h : List.Forall₂ R ps qs) :
    (∃ p q, R p q ∧ ofParagraphs extensions ps = .error (.codeWithoutDeclaration p.lineStart) ∧
      ofParagraphs extensions qs = .error (.codeWithoutDeclaration q.lineStart)) ∨
    ∃ programs programs', ofParagraphs extensions ps = .ok programs ∧ ofParagraphs extensions qs = .ok programs' ∧
      List.Forall₂ S programs programs' := by
  cases h with
  | nil => exact Or.inr ⟨[], [], rfl, rfl, .nil⟩
  | @cons p q ps qs hpq hqs =>
    rw [ofParagraphs_cons, ofParagraphs_cons, hR.tab hpq]
    split_ifs
    · exact Or.inl ⟨p, q, hpq, rfl, rfl⟩
    · exact Or.inr ⟨_, _, rfl, rfl, after_forall₂ hR hS hpq hqs⟩

end Program
end RunnableDocs
