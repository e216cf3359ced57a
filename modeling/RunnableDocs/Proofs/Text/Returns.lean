/-
Returns before line feeds.

`Returned t t'`: the text `t'` is `t`, which has no returns, with a return put before some of its line feeds. What reads
a text in a way that does not tell such two texts apart gives the same answer on both, or pieces that are related again:
- `Returned.lines`: their lines, one by one;
- `Returned.takeWhile_eq`, `Returned.dropWhile`: what stands before and behind a run of other characters;
- `Returned.trim`: what is left without the white space around it, as a return is white space too;
- `Returned.splitAt?`: what stands before and behind a word that has neither returns nor line feeds.
-/
import Mathlib.Data.List.DropRight
import RunnableDocs.Proofs.Text.Lines

namespace RunnableDocs.Text

/-- every line feed with a return before it -/
def withReturns (t : Text) : Text := t.flatMap fun c => if c = '\n' then ['\r', '\n'] else [c]

def withoutReturns (t : Text) : Text := t.filter (· ≠ '\r')

/-- the second text has a return before some line feeds of the first, and neither has any other return -/
inductive Returned : Text → Text → Prop
  | nil : Returned [] []
  | keep {c : Char} {t t' : Text} (hc : c ≠ '\r') : Returned t t' → Returned (c :: t) (c :: t')
  | feed {t t' : Text} : Returned t t' → Returned ('\n' :: t) ('\r' :: '\n' :: t')

/-- a word that has neither returns nor line feeds -/
structure Unbroken (word : Text) : Prop where
  no_feed : '\n' ∉ word
  no_return : '\r' ∉ word

theorem Unbroken.ne_feed {c : Char} {word : Text} (h : Unbroken (c :: word)) : c ≠ '\n' :=
  (List.ne_of_not_mem_cons h.no_feed).symm

theorem Unbroken.ne_return {c : Char} {word : Text} (h : Unbroken (c :: word)) : c ≠ '\r' :=
  (List.ne_of_not_mem_cons h.no_return).symm

theorem Unbroken.tail {c : Char} {word : Text} (h : Unbroken (c :: word)) : Unbroken word :=
  ⟨List.not_mem_of_not_mem_cons h.no_feed, List.not_mem_of_not_mem_cons h.no_return⟩

theorem returned_withReturns {t : Text} (h : '\r' ∉ t) : Returned t (withReturns t) := by
  induction t with
  | nil => exact .nil
  | cons c t ih =>
    have hc : c ≠ '\r' := (List.ne_of_not_mem_cons h).symm
    have ht : '\r' ∉ t := List.not_mem_of_not_mem_cons h
    rw [withReturns, List.flatMap_cons, ← withReturns]
    split_ifs with hn
    · subst hn
      exact .feed (ih ht)
    · exact .keep hc (ih ht)

/-- what is dropped from the end of a text is told by what is dropped from the end of its tail -/
theorem rdropWhile_cons (p : Char → Bool) (c : Char) (t : Text) :
    (c :: t).rdropWhile p = if t.rdropWhile p = [] then (if p c then [] else [c]) else c :: t.rdropWhile p := by
  have hempty : (t.reverse.dropWhile p).isEmpty = true ↔ t.rdropWhile p = [] := by
    rw [List.rdropWhile, List.reverse_eq_nil_iff, List.isEmpty_iff]
  rw [List.rdropWhile, List.reverse_cons, List.dropWhile_append]
  simp only [hempty]
  split_ifs with ht hc
  · simp [hc]
  · simp [hc]
  · rw [List.reverse_append]
    rfl

namespace Returned
variable {t t' u u' : Text}

theorem withoutReturns_eq (h : Returned t t') : withoutReturns t' = t := by
  induction h with
  | nil => rfl
  | keep hc _ ih => rw [withoutReturns, List.filter_cons_of_pos (by simpa using hc), ← withoutReturns, ih]
  | feed _ ih =>
    rw [withoutReturns, List.filter_cons_of_neg (by simp), List.filter_cons_of_pos (by decide), ← withoutReturns, ih]

theorem eq_of_line_feed_not_mem (h : Returned t t') (ht : '\n' ∉ t) : t' = t := by
  induction h with
  | nil => rfl
  | keep hc _ ih => rw [ih (List.not_mem_of_not_mem_cons ht)]
  | feed _ _ => exact absurd List.mem_cons_self ht

theorem eq_of_return_not_mem (h : Returned t t') (ht : '\r' ∉ t') : t' = t := by
  rw [← h.withoutReturns_eq, withoutReturns, List.filter_eq_self.2]
  intro c hc
  simpa using fun he : c = '\r' => ht (he ▸ hc)

theorem append (h : Returned t t') (hu : Returned u u') : Returned (t ++ u) (t' ++ u') := by
  induction h with
  | nil => exact hu
  | keep hc _ ih => exact .keep hc ih
  | feed _ ih => exact .feed ih

theorem line_feeds (n : ℕ) : Returned (List.replicate n '\n') (List.replicate n '\n') := by
  induction n with
  | zero => exact .nil
  | succ n ih => exact .keep (by decide) ih

theorem getLast?_eq (h : Returned t t') : t'.getLast? = t.getLast? := by
  induction h with
  | nil => rfl
  | keep _ _ ih => rw [List.getLast?_cons, List.getLast?_cons, ih]
  | feed _ ih => rw [List.getLast?_cons_cons, List.getLast?_cons, List.getLast?_cons, ih]

/-- the lines of one text are those of the other, each with or without its return -/
theorem lines (h : Returned t t') : List.Forall₂ Returned (lines t) (lines t') := by
  induction h with
  | nil => exact .nil
  | @keep c t t' hc _ ih =>
    rw [Text.lines, Text.lines]
    split_ifs
    · exact .cons (.keep hc .nil) ih
    · generalize Text.lines t = ls at ih ⊢
      generalize Text.lines t' = ls' at ih ⊢
      cases ih with
      | nil => exact .cons (.keep hc .nil) .nil
      | cons hline hmore => exact .cons (.keep hc hline) hmore
  | @feed t t' _ ih =>
    have hreturn : Text.lines ('\r' :: '\n' :: t') = ['\r', '\n'] :: Text.lines t' := by simp [Text.lines]
    rw [hreturn, Text.lines, if_pos rfl]
    exact .cons (.feed .nil) ih

/-! ## Runs of characters -/

theorem takeWhile_eq {p : Char → Bool} (hn : p '\n' = false) (hr : p '\r' = false) (h : Returned t t') :
    t'.takeWhile p = t.takeWhile p := by
  induction h with
  | nil => rfl
  | keep _ _ ih => rw [List.takeWhile_cons, List.takeWhile_cons, ih]
  | feed _ _ => simp [hn, hr]

theorem dropWhile {p : Char → Bool} (hp : p '\n' = p '\r') (h : Returned t t') :
    Returned (t.dropWhile p) (t'.dropWhile p) := by
  induction h with
  | nil => exact .nil
  | keep hc h ih =>
    rw [List.dropWhile_cons, List.dropWhile_cons]
    split_ifs
    · exact ih
    · exact .keep hc h
  | feed h ih =>
    simp only [List.dropWhile_cons, ← hp]
    split_ifs
    · exact ih
    · exact .feed h

theorem rdropWhile {p : Char → Bool} (hp : p '\n' = p '\r') (h : Returned t t') :
    Returned (t.rdropWhile p) (t'.rdropWhile p) := by
  have hnil : ∀ {s s' : Text}, Returned s s' → (s' = [] ↔ s = []) := by
    intro s s' hs
    cases hs <;> simp
  induction h with
  | nil => exact .nil
  | keep hc _ ih =>
    simp only [rdropWhile_cons, hnil ih]
    split_ifs
    · exact .nil
    · exact .keep hc .nil
    · exact .keep hc ih
  | @feed t t' _ ih =>
    simp only [rdropWhile_cons, hnil ih, ← hp]
    by_cases ht : t.rdropWhile p = []
    · by_cases hn : p '\n' = true
      · simp only [ht, hn, if_true]
        exact .nil
      · simp only [ht, hn, if_true]
        exact .feed .nil
    · simp only [ht, if_false, List.cons_ne_nil]
      exact .feed ih

theorem trim (h : Returned t t') : Returned (trim t) (trim t') :=
  (h.dropWhile rfl).rdropWhile rfl

/-! ## Searching for a word -/

/-- two pairs of texts, related part by part -/
def Parts (p p' : Text × Text) : Prop := Returned p.1 p'.1 ∧ Returned p.2 p'.2

theorem after? {word : Text} (hw : Unbroken word) (h : Returned t t') :
    Option.Rel Returned (after? word t) (after? word t') := by
  induction word generalizing t t' with
  | nil => exact .some h
  | cons w word ih =>
    cases h with
    | nil => exact .none
    | @keep c t t' hc h =>
      rw [Text.after?, Text.after?]
      split_ifs
      · exact ih hw.tail h
      · exact .none
    | feed h =>
      rw [Text.after?, Text.after?, if_neg hw.ne_feed, if_neg hw.ne_return]
      exact .none

theorem prefix_iff {word : Text} (hw : Unbroken word) (h : Returned t t') : word <+: t' ↔ word <+: t := by
  have hiff : ∀ s : Text, word <+: s ↔ (Text.after? word s).isSome = true := by
    intro s
    rw [Option.isSome_iff_exists]
    exact exists_congr fun rest => by rw [Text.after?_eq_some, eq_comm]
  have hafter := h.after? hw
  rw [hiff, hiff]
  generalize Text.after? word t = a at hafter ⊢
  generalize Text.after? word t' = a' at hafter ⊢
  cases hafter with
  | some _ => rfl
  | none => rfl

theorem splitAt? {word : Text} (hne : word ≠ []) (hw : Unbroken word) (h : Returned t t') :
    Option.Rel Parts (splitAt? word t) (splitAt? word t') := by
  obtain ⟨w, word, rfl⟩ := List.exists_cons_of_ne_nil hne
  induction h with
  | nil => exact .none
  | @keep c t t' hc h ih =>
    rw [Text.splitAt?, Text.splitAt?]
    have hafter := (Returned.keep hc h).after? hw
    generalize Text.after? (w :: word) (c :: t) = a at hafter ⊢
    generalize Text.after? (w :: word) (c :: t') = a' at hafter ⊢
    cases hafter with
    | some hrest => exact .some ⟨.nil, hrest⟩
    | none =>
      generalize Text.splitAt? (w :: word) t = s at ih ⊢
      generalize Text.splitAt? (w :: word) t' = s' at ih ⊢
      cases ih with
      | some hparts => exact .some ⟨.keep hc hparts.1, hparts.2⟩
      | none => exact .none
  | @feed t t' h ih =>
    -- the word starts neither with the return nor with the line feed
    have hskip : ∀ {c : Char} (s : Text), w ≠ c → Text.splitAt? (w :: word) (c :: s) =
        (Text.splitAt? (w :: word) s).map fun parts => (c :: parts.1, parts.2) := by
      intro c s hc
      rw [Text.splitAt?, Text.after?, if_neg hc]
    rw [hskip t hw.ne_feed, hskip _ hw.ne_return, hskip t' hw.ne_feed]
    generalize Text.splitAt? (w :: word) t = s at ih ⊢
    generalize Text.splitAt? (w :: word) t' = s' at ih ⊢
    cases ih with
    | some hparts => exact .some ⟨.feed hparts.1, hparts.2⟩
    | none => exact .none

end Returned
end RunnableDocs.Text
