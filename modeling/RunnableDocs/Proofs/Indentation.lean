/-
Taking the indentation away.

`untab` is told by the pieces between line feeds: each loses one tab at its start, if there is one, and nothing else
changes (`splitOn_untab`). So it undoes `indent`, which puts a tab before each piece, and `indent` undoes it on the texts
of which every piece starts with a tab, and on no others (`untab_undoes_indent`).
-/
import RunnableDocs.Program
import RunnableDocs.Proofs.Text.Lines

namespace RunnableDocs

open Paragraph (startsWithTab)
open Text (splitOn)

/-- a piece without the tab at its start -/
def dropTab : Text → Text
  | '\t' :: rest => rest
  | piece => piece

theorem dropTab_cons_of_ne {c : Char} (hc : c ≠ '\t') (rest : Text) : dropTab (c :: rest) = c :: rest := by
  unfold dropTab
  split
  · rename_i heq
    exact absurd (List.cons.inj heq).1 hc
  · rfl

/-- the first piece of a text starts with a tab only if the text does -/
theorem dropTab_first_piece {t piece : Text} {more : List Text} (h : splitOn '\n' t = piece :: more)
    (ht : ∀ rest, t ≠ '\t' :: rest) : dropTab piece = piece := by
  cases t with
  | nil =>
    obtain ⟨rfl, -⟩ := List.cons.inj h
    rfl
  | cons c t =>
    have hc : c ≠ '\t' := fun e => ht t (by rw [e])
    by_cases hcn : c = '\n'
    · rw [hcn, splitOn, if_pos rfl] at h
      obtain ⟨rfl, -⟩ := List.cons.inj h
      rfl
    · obtain ⟨piece', more', hr⟩ := List.exists_cons_of_ne_nil (Text.splitOn_ne_nil '\n' t)
      rw [Text.splitOn_cons_of_ne hcn hr] at h
      obtain ⟨rfl, -⟩ := List.cons.inj h
      exact dropTab_cons_of_ne hc piece'

/-- the first piece is left as it is, all others lose their tab -/
theorem splitOn_dropTabs {t piece : Text} {more : List Text} (h : splitOn '\n' t = piece :: more) :
    splitOn '\n' (dropTabs t) = piece :: more.map dropTab := by
  fun_induction dropTabs t generalizing piece more with
  | case1 =>
    obtain ⟨rfl, rfl⟩ := List.cons.inj h
    rfl
  | case2 c =>
    by_cases hc : c = '\n'
    · subst hc
      obtain ⟨rfl, rfl⟩ := List.cons.inj h
      rfl
    · rw [Text.splitOn_of_not_mem (by simpa using Ne.symm hc)] at h ⊢
      obtain ⟨rfl, rfl⟩ := List.cons.inj h
      rfl
  | case3 c d rest hcd ih =>
    -- the tab behind a line feed goes
    obtain ⟨rfl, rfl⟩ : c = '\n' ∧ d = '\t' := by simpa using hcd
    obtain ⟨first, others, hr⟩ := List.exists_cons_of_ne_nil (Text.splitOn_ne_nil '\n' rest)
    rw [splitOn, if_pos rfl, Text.splitOn_cons_of_ne (by decide) hr] at h
    obtain ⟨rfl, rfl⟩ := List.cons.inj h
    rw [splitOn, if_pos rfl, ih hr]
    rfl
  | case4 c d rest hcd ih =>
    obtain ⟨first, others, hr⟩ := List.exists_cons_of_ne_nil (Text.splitOn_ne_nil '\n' (d :: rest))
    by_cases hc : c = '\n'
    · -- the piece behind this line feed does not start with a tab
      subst hc
      have hd : d ≠ '\t' := by simpa using hcd
      have hfirst : dropTab first = first := dropTab_first_piece hr fun rest' he => hd (List.cons.inj he).1
      rw [splitOn, if_pos rfl, hr] at h
      obtain ⟨rfl, rfl⟩ := List.cons.inj h
      rw [splitOn, if_pos rfl, ih hr, List.map_cons, hfirst]
    · rw [Text.splitOn_cons_of_ne hc hr] at h
      obtain ⟨rfl, rfl⟩ := List.cons.inj h
      exact Text.splitOn_cons_of_ne hc (ih hr)

/-- **Taking the indentation away is done piece by piece.** -/
theorem splitOn_untab (t : Text) : splitOn '\n' (untab t) = (splitOn '\n' t).map dropTab := by
  unfold untab
  split
  · rename_i rest
    obtain ⟨piece, more, hr⟩ := List.exists_cons_of_ne_nil (Text.splitOn_ne_nil '\n' rest)
    rw [splitOn_dropTabs hr, Text.splitOn_cons_of_ne (by decide) hr]
    rfl
  · rename_i ht
    obtain ⟨piece, more, hr⟩ := List.exists_cons_of_ne_nil (Text.splitOn_ne_nil '\n' t)
    rw [splitOn_dropTabs hr, hr, List.map_cons, dropTab_first_piece hr fun rest he => ht rest he]

/-! ## Indenting -/

/-- the text with a tab put before each of its pieces, an empty last one included -/
def indent (t : Text) : Text := ['\n'].intercalate ((splitOn '\n' t).map ('\t' :: ·))

theorem splitOn_indent (t : Text) : splitOn '\n' (indent t) = (splitOn '\n' t).map ('\t' :: ·) := by
  refine Text.splitOn_intercalate ?_ fun piece hpiece => ?_
  · simpa using Text.splitOn_ne_nil '\n' t
  · obtain ⟨body, hbody, rfl⟩ := List.mem_map.1 hpiece
    have hfeed : '\n' ∉ body := fun hc => (Text.of_mem_splitOn hbody _ hc).2 rfl
    simpa using hfeed

/-- a piece gets back the tab that it lost, if it lost one -/
theorem tab_dropTab_eq_iff (piece : Text) : '\t' :: dropTab piece = piece ↔ startsWithTab piece = true := by
  unfold dropTab startsWithTab
  split <;> simp_all

/-- **Taking the indentation away undoes indenting.** A text without its indentation is made of its pieces, each without
one tab at its start if it starts with a tab, and all else kept. An indented text loses just the tabs that it was given,
and a text that has lost its indentation is got back by indenting it exactly if each of its pieces started with a tab. -/
theorem untab_undoes_indent (t : Text) :
    untab t = ['\n'].intercalate ((splitOn '\n' t).map dropTab) ∧
    untab (indent t) = t ∧
    (indent (untab t) = t ↔ ∀ piece ∈ splitOn '\n' t, startsWithTab piece = true) := by
  refine ⟨?_, ?_, ?_⟩
  · rw [← splitOn_untab, Text.intercalate_splitOn]
  · apply Text.splitOn_injective '\n'
    have hback : dropTab ∘ ('\t' :: ·) = id := rfl
    rw [splitOn_untab, splitOn_indent, List.map_map, hback, List.map_id]
  · have hpieces : splitOn '\n' (indent (untab t)) = (splitOn '\n' t).map fun piece => '\t' :: dropTab piece := by
      rw [splitOn_indent, splitOn_untab, List.map_map]
      rfl
    calc indent (untab t) = t
        ↔ splitOn '\n' (indent (untab t)) = splitOn '\n' t := (Text.splitOn_injective '\n').eq_iff.symm
      _ ↔ (splitOn '\n' t).map (fun piece => '\t' :: dropTab piece) = (splitOn '\n' t).map id := by
        rw [hpieces, List.map_id]
      _ ↔ ∀ piece ∈ splitOn '\n' t, '\t' :: dropTab piece = piece := List.map_inj_left
      _ ↔ ∀ piece ∈ splitOn '\n' t, startsWithTab piece = true := by simp only [tab_dropTab_eq_iff]

end RunnableDocs
