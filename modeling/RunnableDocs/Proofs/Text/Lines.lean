/-
Lines and pieces of a text.

A line is full if it ends in its only line feed, and open if it has none; of the lines of a text only the last may be
open (`AreLines`).

- `lines_flatten`: such lines, glued together and cut again, are the same lines;
- `lines_append`: behind a complete text the lines of another one start afresh;
- `splitOn_lines`: the pieces between the line feeds are the lines without their line feeds, and one empty piece more
  behind a complete text;
- `splitOn_injective`: the pieces tell the text.
-/
import Mathlib.Tactic
import RunnableDocs.Text.Basic

namespace RunnableDocs.Text

/-- a line that ends in its only line feed -/
def IsFull (l : Text) : Prop := ∃ b, '\n' ∉ b ∧ l = b ++ ['\n']

/-- the rest of a text behind its last line feed, if there is any -/
def IsOpen (l : Text) : Prop := l ≠ [] ∧ '\n' ∉ l

/-- full lines, of which only the last may be open instead -/
def AreLines : List Text → Prop
  | [] => True
  | [l] => IsFull l ∨ IsOpen l
  | l :: m :: ls => IsFull l ∧ AreLines (m :: ls)

/-- nothing stands behind the last line feed -/
def Complete (t : Text) : Prop := t = [] ∨ t.getLast? = some '\n'

instance (t : Text) : Decidable (Complete t) := inferInstanceAs (Decidable (_ ∨ _))

/-- a line without its line feed -/
def chomp (l : Text) : Text := if l.getLast? = some '\n' then l.dropLast else l

theorem IsFull.ne_nil {l : Text} (h : IsFull l) : l ≠ [] := by
  obtain ⟨b, -, rfl⟩ := h
  simp

theorem IsFull.getLast? {l : Text} (h : IsFull l) : l.getLast? = some '\n' := by
  obtain ⟨b, -, rfl⟩ := h
  simp

theorem IsOpen.getLast? {l : Text} (h : IsOpen l) : l.getLast? ≠ some '\n' := fun hl =>
  h.2 (List.mem_of_mem_getLast? hl)

/-- a line feed can only be the last character of a line -/
theorem not_mem_of_line_append {x y : Text} (h : IsFull (x ++ y) ∨ IsOpen (x ++ y)) (hy : y ≠ []) : '\n' ∉ x := by
  rcases h with ⟨b, hb, he⟩ | h
  · have hx : x <+: b := by
      have hp : x <+: b ++ ['\n'] := ⟨y, he⟩
      refine List.prefix_of_prefix_length_le hp (List.prefix_append b _) ?_
      have hl := congrArg List.length he
      have := List.length_pos_iff.2 hy
      simp only [List.length_append, List.length_singleton] at hl
      omega
    exact fun hm => hb (hx.subset hm)
  · exact fun hm => h.2 (List.mem_append_left y hm)

theorem IsFull.of_append {x y : Text} (h : IsFull (x ++ y)) (hy : y ≠ []) : IsFull y := by
  obtain ⟨b, hb, he⟩ := h
  have hlast : y.getLast? = some '\n' := by
    rw [← List.getLast?_append_of_ne_nil x hy, he]
    simp
  obtain ⟨init, rfl⟩ := List.getLast?_eq_some_iff.1 hlast
  rw [← List.append_assoc] at he
  obtain ⟨rfl, -⟩ := List.append_inj' he rfl
  exact ⟨init, fun hm => hb (List.mem_append_right x hm), rfl⟩

/-! ## Lists of lines -/

theorem AreLines.tail {l : Text} {ls : List Text} (h : AreLines (l :: ls)) : AreLines ls := by
  cases ls with
  | nil => trivial
  | cons m ls => exact h.2

theorem AreLines.isFull_or_isOpen {l : Text} {ls : List Text} (h : AreLines (l :: ls)) : IsFull l ∨ IsOpen l := by
  cases ls with
  | nil => exact h
  | cons m ls => exact Or.inl h.1

theorem AreLines.ne_nil {ls : List Text} (h : AreLines ls) {l : Text} (hl : l ∈ ls) : l ≠ [] := by
  induction ls with
  | nil => cases hl
  | cons m ls ih =>
    rcases List.mem_cons.1 hl with rfl | hl
    · exact h.isFull_or_isOpen.elim IsFull.ne_nil And.left
    · exact ih h.tail hl

theorem AreLines.isFull_of_append {ls : List Text} {m : Text} {ms : List Text} (h : AreLines (ls ++ m :: ms)) :
    ∀ l ∈ ls, IsFull l := by
  induction ls with
  | nil => simp
  | cons l ls ih =>
    intro x hx
    rcases List.mem_cons.1 hx with rfl | hx
    · cases ls with
      | nil => exact h.1
      | cons y ls => exact h.1
    · exact ih h.tail x hx

/-- of some lines only the last may be open -/
theorem AreLines.isFull_of_mem_dropLast {ls : List Text} (h : AreLines ls) : ∀ l ∈ ls.dropLast, IsFull l := by
  cases ls with
  | nil => simp
  | cons m ms =>
    rw [← List.dropLast_append_getLast (List.cons_ne_nil m ms)] at h
    exact h.isFull_of_append

theorem AreLines.drop_append {ls ms : List Text} (h : AreLines (ls ++ ms)) : AreLines ms := by
  induction ls with
  | nil => exact h
  | cons l ls ih => exact ih h.tail

theorem AreLines.append_left {ls ms : List Text} (h : AreLines (ls ++ ms)) : AreLines ls := by
  induction ls with
  | nil => trivial
  | cons l ls ih =>
    cases ls with
    | nil => exact h.isFull_or_isOpen
    | cons m ls => exact ⟨h.1, ih h.2⟩

theorem AreLines.of_full {ls : List Text} (h : ∀ l ∈ ls, IsFull l) : AreLines ls := by
  induction ls with
  | nil => trivial
  | cons l ls ih =>
    have hl := h l List.mem_cons_self
    have hls := ih fun x hx => h x (List.mem_cons_of_mem l hx)
    cases ls with
    | nil => exact Or.inl hl
    | cons m ls => exact ⟨hl, hls⟩

theorem AreLines.append {ls ms : List Text} (hl : ∀ l ∈ ls, IsFull l) (hm : AreLines ms) : AreLines (ls ++ ms) := by
  induction ls with
  | nil => exact hm
  | cons l ls ih =>
    have h := ih fun x hx => hl x (List.mem_cons_of_mem l hx)
    cases hc : ls ++ ms with
    | nil => rw [List.cons_append, hc]; exact Or.inl (hl l List.mem_cons_self)
    | cons m rest => rw [List.cons_append, hc]; exact ⟨hl l List.mem_cons_self, hc ▸ h⟩

/-! ## Cutting and gluing -/

@[simp] theorem lines_nil : lines [] = [] := rfl

theorem lines_full_append {b : Text} (hb : '\n' ∉ b) (t : Text) :
    lines (b ++ '\n' :: t) = (b ++ ['\n']) :: lines t := by
  induction b with
  | nil => simp [lines]
  | cons c b ih =>
    have hc : c ≠ '\n' := fun e => hb (e ▸ List.mem_cons_self)
    have hb' : '\n' ∉ b := fun m => hb (List.mem_cons_of_mem c m)
    rw [List.cons_append, lines, if_neg hc, ih hb']
    rfl

theorem lines_of_isOpen {l : Text} (h : IsOpen l) : lines l = [l] := by
  obtain ⟨hne, hn⟩ := h
  induction l with
  | nil => exact absurd rfl hne
  | cons c l ih =>
    have hc : c ≠ '\n' := fun e => hn (e ▸ List.mem_cons_self)
    have hl : '\n' ∉ l := fun m => hn (List.mem_cons_of_mem c m)
    rw [lines, if_neg hc]
    cases l with
    | nil => rfl
    | cons d l => rw [ih (by simp) hl]

theorem lines_ne_nil {t : Text} (h : t ≠ []) : lines t ≠ [] := by
  intro hl
  have := flatten_lines t
  rw [hl] at this
  exact h this.symm

theorem areLines_lines (t : Text) : AreLines (lines t) := by
  induction t with
  | nil => trivial
  | cons c t ih =>
    rw [lines]
    split_ifs with hc
    · subst hc
      exact @AreLines.append [['\n']] _ (by simpa using ⟨[], by simp, rfl⟩) ih
    · split
      · exact Or.inr ⟨by simp, by simpa using Ne.symm hc⟩
      · rename_i l ls hl
        rw [hl] at ih
        -- the first line grows at its front, so it stays full or open
        have hfull : IsFull l → IsFull (c :: l) := by
          rintro ⟨b, hb, rfl⟩
          exact ⟨c :: b, by simp [hb, Ne.symm hc], rfl⟩
        have hopen : IsOpen l → IsOpen (c :: l) := fun h => ⟨by simp, by simp [h.2, Ne.symm hc]⟩
        cases ls with
        | nil => exact ih.imp hfull hopen
        | cons m ls => exact ⟨hfull ih.1, ih.2⟩

theorem lines_flatten {ls : List Text} (h : AreLines ls) : lines ls.flatten = ls := by
  induction ls with
  | nil => rfl
  | cons l ls ih =>
    cases ls with
    | nil =>
      rcases h with ⟨b, hb, rfl⟩ | h
      · simpa using lines_full_append hb []
      · simpa using lines_of_isOpen h
    | cons m ls =>
      obtain ⟨⟨b, hb, rfl⟩, hm⟩ := h
      rw [List.flatten_cons, List.append_assoc, List.singleton_append, lines_full_append hb, ih hm]

theorem Complete.isFull {t : Text} (h : Complete t) : ∀ l ∈ lines t, IsFull l := by
  intro l hl
  obtain ⟨ls, ms, hs⟩ := List.append_of_mem hl
  cases ms with
  | cons m ms =>
    have ha : AreLines ((ls ++ [l]) ++ m :: ms) := by
      have := areLines_lines t
      rw [hs] at this
      simpa using this
    exact ha.isFull_of_append l (by simp)
  | nil =>
    have ha := areLines_lines t
    rw [hs] at ha
    refine ha.drop_append.resolve_right fun ho => ?_
    have ht : t = ls.flatten ++ l := by rw [← flatten_lines t, hs]; simp
    rcases h with h | h
    · exact ho.1 (by simp_all)
    · rw [ht, List.getLast?_append_of_ne_nil _ ho.1] at h
      exact ho.getLast? h

theorem lines_append {t : Text} (h : Complete t) (u : Text) : lines (t ++ u) = lines t ++ lines u := by
  have ha : AreLines (lines t ++ lines u) := AreLines.append h.isFull (areLines_lines u)
  rw [← lines_flatten ha, List.flatten_append, flatten_lines, flatten_lines]

/-- what stands at the start of a text within a line stands at the start of its first line -/
theorem exists_lines_append {word : Text} (hne : word ≠ []) (hw : '\n' ∉ word) (t : Text) :
    ∃ after rest, lines (word ++ t) = (word ++ after) :: rest := by
  by_cases ht : '\n' ∈ t
  · obtain ⟨b, more, rfl, hb⟩ := List.eq_append_cons_of_mem ht
    refine ⟨b ++ ['\n'], lines more, ?_⟩
    rw [← List.append_assoc, lines_full_append (by simp [hw, hb]), List.append_assoc]
  · exact ⟨t, [], lines_of_isOpen ⟨by simp [hne], by simp [hw, ht]⟩⟩

theorem infix_of_mem_lines {t l : Text} (h : l ∈ lines t) : l <:+: t := by
  have := List.infix_of_mem_flatten h
  rwa [flatten_lines] at this

theorem complete_flatten {ls : List Text} (h : ∀ l ∈ ls, IsFull l) : Complete ls.flatten := by
  rcases List.eq_nil_or_concat ls with rfl | ⟨init, l, rfl⟩
  · exact Or.inl rfl
  · have hl := h l (by simp)
    right
    rw [List.concat_eq_append, List.flatten_append, List.flatten_singleton, List.getLast?_append_of_ne_nil _ hl.ne_nil]
    exact hl.getLast?

/-! ## Pieces -/

theorem chomp_full (b : Text) : chomp (b ++ ['\n']) = b := by simp [chomp]

theorem chomp_of_isOpen {l : Text} (h : IsOpen l) : chomp l = l := if_neg h.getLast?

theorem splitOn_eq_list (mark : Char) (t : Text) : splitOn mark t = List.splitOn mark t := by
  induction t with
  | nil => rfl
  | cons c t ih =>
    rw [splitOn, List.splitOn_cons_eq_if_modifyHead, ih]
    by_cases hc : c = mark
    · rw [if_pos hc, if_pos (by simpa using hc)]
    · rw [if_neg hc, if_neg (by simpa using hc)]
      obtain ⟨piece, more, hs⟩ := List.exists_cons_of_ne_nil (List.splitOn_ne_nil mark t)
      rw [hs]
      rfl

theorem splitOn_ne_nil (mark : Char) (t : Text) : splitOn mark t ≠ [] := by
  rw [splitOn_eq_list]
  exact List.splitOn_ne_nil mark t

theorem splitOn_cons_of_ne {mark c : Char} (hc : c ≠ mark) {t piece : Text} {more : List Text}
    (h : splitOn mark t = piece :: more) : splitOn mark (c :: t) = (c :: piece) :: more := by
  rw [splitOn, if_neg hc, h]

theorem splitOn_of_not_mem {mark : Char} {b : Text} (hb : mark ∉ b) : splitOn mark b = [b] := by
  rw [splitOn_eq_list]
  exact List.splitOn_eq_singleton hb

theorem splitOn_append_mark {mark : Char} {b : Text} (hb : mark ∉ b) (t : Text) :
    splitOn mark (b ++ mark :: t) = b :: splitOn mark t := by
  rw [splitOn_eq_list, splitOn_eq_list]
  exact List.splitOn_append_cons_self_of_not_mem hb t

theorem of_mem_splitOn {mark : Char} {t piece : Text} (h : piece ∈ splitOn mark t) :
    ∀ c ∈ piece, c ∈ t ∧ c ≠ mark := by
  induction t generalizing piece with
  | nil =>
    obtain rfl : piece = [] := by simpa [splitOn] using h
    simp
  | cons d t ih =>
    by_cases hd : d = mark
    · rw [splitOn, if_pos hd, List.mem_cons] at h
      rcases h with rfl | h
      · simp
      · exact fun c hc => ⟨List.mem_cons_of_mem d (ih h c hc).1, (ih h c hc).2⟩
    · obtain ⟨first, more, hs⟩ := List.exists_cons_of_ne_nil (splitOn_ne_nil mark t)
      rw [splitOn_cons_of_ne hd hs, List.mem_cons] at h
      rw [hs] at ih
      rcases h with rfl | h
      · rintro c (_ | ⟨_, hc⟩)
        · exact ⟨List.mem_cons_self, hd⟩
        · have := ih List.mem_cons_self c hc
          exact ⟨List.mem_cons_of_mem d this.1, this.2⟩
      · intro c hc
        have := ih (List.mem_cons_of_mem first h) c hc
        exact ⟨List.mem_cons_of_mem d this.1, this.2⟩

/-- pieces that do not hold the mark, put together with the mark between them and cut again, are the same pieces -/
theorem splitOn_intercalate {mark : Char} {pieces : List Text} (hne : pieces ≠ [])
    (h : ∀ piece ∈ pieces, mark ∉ piece) : splitOn mark ([mark].intercalate pieces) = pieces := by
  rw [splitOn_eq_list]
  exact List.splitOn_intercalate mark h hne

theorem intercalate_splitOn (mark : Char) (t : Text) : [mark].intercalate (splitOn mark t) = t := by
  rw [splitOn_eq_list]
  exact List.intercalate_splitOn mark

/-- a text whose last piece of several is empty ends in the mark -/
theorem getLast?_of_splitOn {mark : Char} {t : Text} {init : List Text} (hi : init ≠ [])
    (h : splitOn mark t = init ++ [[]]) : t.getLast? = some mark := by
  rw [← intercalate_splitOn mark t, h]
  clear h
  induction init with
  | nil => exact absurd rfl hi
  | cons piece init ih =>
    cases init with
    | nil => simp [List.intercalate_cons_cons]
    | cons piece' init =>
      rw [List.cons_append, List.intercalate_cons_of_ne_nil (by simp), List.getLast?_append, ih (by simp)]
      rfl

theorem splitOn_injective (mark : Char) : Function.Injective (splitOn mark) := fun t u h => by
  rw [← intercalate_splitOn mark t, h, intercalate_splitOn]

theorem splitOn_full_lines {ls : List Text} (h : ∀ l ∈ ls, IsFull l) (t : Text) :
    splitOn '\n' (ls.flatten ++ t) = ls.map chomp ++ splitOn '\n' t := by
  induction ls with
  | nil => rfl
  | cons l ls ih =>
    obtain ⟨b, hb, rfl⟩ := h l List.mem_cons_self
    rw [List.flatten_cons, List.append_assoc, List.append_assoc, List.singleton_append, splitOn_append_mark hb,
      ih fun x hx => h x (List.mem_cons_of_mem _ hx), List.map_cons, chomp_full]
    rfl

theorem splitOn_lines (t : Text) :
    splitOn '\n' t = (lines t).map chomp ++ if Complete t then [[]] else [] := by
  split_ifs with h
  · have := splitOn_full_lines h.isFull []
    rwa [List.append_nil, flatten_lines] at this
  · rcases List.eq_nil_or_concat (lines t) with hl | ⟨init, l, hl⟩
    · exact absurd (Or.inl (by rw [← flatten_lines t, hl]; rfl)) h
    · rw [List.concat_eq_append] at hl
      have ha := areLines_lines t
      rw [hl] at ha
      have ht : t = init.flatten ++ l := by rw [← flatten_lines t, hl]; simp
      have ho : IsOpen l := by
        refine ha.drop_append.resolve_left fun hf => h (Or.inr ?_)
        rw [ht, List.getLast?_append_of_ne_nil _ hf.ne_nil]
        exact hf.getLast?
      rw [hl, ht, splitOn_full_lines ha.isFull_of_append, splitOn_of_not_mem ho.2]
      simp [chomp_of_isOpen ho]

end RunnableDocs.Text
