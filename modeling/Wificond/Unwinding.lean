import Wificond.Runs

/-!
# Families of runs with the same outputs

A machine answers each call with an output. It is started in a family of states, one for each
value of something that the outputs should not reveal. Where a call is answered alike in all
states of the family exactly if it is admissible, the runs have the same outputs exactly if all
their calls are admissible.
-/
namespace Wificond.Runs

variable {σ α β ι : Type*} {step : σ → α → σ} {out : σ → α → β} {s t : σ} {calls : List α}

section Unwinds
variable {Inv : List α → (ι → σ) → Prop} {Admissible : List α → (ι → σ) → α → Prop}
  {start : ι → σ} {pre : List α}

end Unwinds

end Wificond.Runs
