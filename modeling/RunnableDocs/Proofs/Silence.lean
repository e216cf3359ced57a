/-
Actions that report nothing.

Sequencing and the activities around an action keep it silent, so going into a run directory is (`silent_enterWith`).
-/
import RunnableDocs.RunDirectory

namespace RunnableDocs

namespace Action
variable {α β : Type}

/-- nothing is reported, whatever the world is -/
def Silent (x : Action α) : Prop := ∀ w, (x w).events = []

theorem Silent.bind {x : Action α} {f : α → Action β} (hx : x.Silent) (hf : ∀ a, (f a).Silent) :
    (x >>= f).Silent := by
  intro w
  cases h : (x w).result with
  | error e => rw [bind_of_error h]; exact hx w
  | ok a => rw [bind_of_ok h, hx w, hf a]; rfl

theorem Silent.during {x : Action α} (hx : x.Silent) (activity : Activity) : (x.during activity).Silent := hx

theorem silent_inspect (f : World → Except SystemError α) : (inspect f).Silent := fun _ => rfl

theorem silent_attempt (f : World → World × Except SystemError Unit) : (attempt f).Silent := fun _ => rfl

theorem silent_pure (a : α) : (Pure.pure a : Action α).Silent := fun _ => rfl

theorem silent_change (f : World → Except SystemError World) : (change f).Silent := by
  intro w
  unfold change
  split <;> rfl

end Action

/-! ## Entering the directory reports nothing -/

namespace RunDirectory

open RunnableDocs.Action (Silent)

variable (temporary : Provider)

theorem silent_makeTemporary : (makeTemporary temporary).Silent := by
  intro w
  unfold makeTemporary
  split <;> rfl

theorem silent_enterTemporary (path : Path) : (enterTemporary temporary path).Silent := by
  intro w
  have h : ((Action.change (·.changeDirectory path)).during (.changeDirectory path)).Silent :=
    (Action.silent_change _).during _
  simp only [enterTemporary]
  split
  · exact h w
  · exact h w

theorem silent_enterWith (dir : Option Path) : (enterWith temporary dir).Silent := by
  refine ((Action.silent_inspect _).during _).bind fun origin => ?_
  cases dir with
  | none =>
    refine ((silent_makeTemporary temporary).during _).bind fun path => ?_
    exact (silent_enterTemporary temporary path).bind fun _ => Action.silent_pure _
  | some dir =>
    refine ((Action.silent_attempt _).during _).bind fun _ => ?_
    exact ((Action.silent_change _).during _).bind fun _ => Action.silent_pure _

end RunDirectory

end RunnableDocs
