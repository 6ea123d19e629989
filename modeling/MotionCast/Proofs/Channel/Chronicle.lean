import Mathlib.Data.List.Induction

/-! Acts in a row. Each act has an outcome, and the outcomes are kept with the latest first, so that
what a state has to know about its past is a recursion on them. -/

namespace MotionCast

variable {σ α ε : Type} {step : σ → α → ε × σ} {start : σ}

/-- The outcomes of acts in a row, the latest first, and the state that the acts lead to. -/
def chronicle (step : σ → α → ε × σ) (start : σ) (acts : List α) : List ε × σ :=
  acts.foldl (fun now act => ((step now.2 act).1 :: now.1, (step now.2 act).2)) ([], start)

theorem chronicle_snoc (acts : List α) (act : α) :
    chronicle step start (acts ++ [act]) =
      ((step (chronicle step start acts).2 act).1 :: (chronicle step start acts).1,
        (step (chronicle step start acts).2 act).2) := by
  rw [chronicle, List.foldl_append]
  rfl

/-- What holds at the start, and after an act if it held before, holds after all acts. -/
theorem chronicle_induction {P : List ε → σ → Prop} (first : P [] start)
    (next : ∀ past s act, P past s → P ((step s act).1 :: past) (step s act).2) (acts : List α) :
    P (chronicle step start acts).1 (chronicle step start acts).2 := by
  induction acts using List.reverseRecOn with
  | nil => exact first
  | append_singleton acts act ih =>
    rw [chronicle_snoc]
    exact next _ _ act ih

end MotionCast
