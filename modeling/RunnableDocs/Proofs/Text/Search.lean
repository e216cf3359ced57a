/-
The first occurrence of a word in a text.

`splitAt?` finds nothing exactly if the word does not occur (`splitAt?_eq_none_iff`), and otherwise the place that no
other occurrence is before (`splitAt?_eq_some_iff`).
-/
import Mathlib.Tactic
import RunnableDocs.Text.Basic

namespace RunnableDocs.Text

/-- the word stands between `before` and `after`, and nowhere in the text with less before it -/
def FirstAt (word t before after : Text) : Prop :=
  t = before ++ word ++ after ∧ ∀ b a, t = b ++ word ++ a → before.length ≤ b.length

theorem after?_eq_none {word t : Text} (h : after? word t = none) : ¬ word <+: t := by
  rintro ⟨rest, hr⟩
  rw [after?_eq_some.2 hr.symm] at h
  cases h

theorem splitAt?_eq_none_iff {word t : Text} : splitAt? word t = none ↔ ¬ word <:+: t := by
  induction t with
  | nil =>
    by_cases hw : word = []
    · simp [splitAt?, hw]
    · simp [splitAt?, hw]
  | cons c t ih =>
    rw [splitAt?, List.infix_cons_iff]
    split
    · rename_i rest hr
      have hp : word <+: c :: t := ⟨rest, (after?_eq_some.1 hr).symm⟩
      simp [hp]
    · rename_i hn
      simp [ih, after?_eq_none hn]

theorem FirstAt.unique {word t b a b' a' : Text} (h : FirstAt word t b a) (h' : FirstAt word t b' a') :
    b = b' ∧ a = a' := by
  have hl : b.length = b'.length := le_antisymm (h.2 _ _ h'.1) (h'.2 _ _ h.1)
  have he : b ++ (word ++ a) = b' ++ (word ++ a') := by
    rw [← List.append_assoc, ← List.append_assoc]
    exact h.1.symm.trans h'.1
  obtain ⟨hb, hr⟩ := List.append_inj he hl
  exact ⟨hb, List.append_cancel_left hr⟩

theorem firstAt_of_splitAt? {word t before after : Text} (h : splitAt? word t = some (before, after)) :
    FirstAt word t before after := by
  refine ⟨splitAt?_append h, ?_⟩
  induction t generalizing before with
  | nil =>
    by_cases hw : word = []
    · simp [splitAt?, hw] at h
      simp [h]
    · simp [splitAt?, hw] at h
  | cons c t ih =>
    intro b a hb
    rw [splitAt?] at h
    split at h
    · obtain ⟨rfl, -⟩ := Prod.mk.inj (Option.some.inj h)
      simp
    · rename_i hn
      obtain ⟨⟨x, y⟩, hs, he⟩ := Option.map_eq_some_iff.1 h
      obtain ⟨rfl, rfl⟩ := Prod.mk.inj he
      cases b with
      | nil => exact absurd ⟨a, hb.symm⟩ (after?_eq_none hn)
      | cons d b =>
        have := ih hs b a (List.cons.inj hb).2
        simpa using this

theorem splitAt?_eq_some_iff {word t before after : Text} :
    splitAt? word t = some (before, after) ↔ FirstAt word t before after := by
  refine ⟨firstAt_of_splitAt?, fun h => ?_⟩
  cases hs : splitAt? word t with
  | none => exact absurd ⟨before, after, h.1.symm⟩ (splitAt?_eq_none_iff.1 hs)
  | some parts =>
    obtain ⟨rfl, rfl⟩ := (firstAt_of_splitAt? hs).unique h
    rfl

theorem firstAt_self (word t : Text) : FirstAt word (word ++ t) [] t := ⟨by simp, fun _ _ _ => Nat.zero_le _⟩

end RunnableDocs.Text
