/-! Computations that may trap. A trap ends the computation but not the effects made before it. -/
namespace Trapping

variable {ε σ α β : Type}

def force (trap : ε) : Option α → EStateM ε σ α
  | some value => pure value
  | none => throw trap

@[simp] theorem run_force_some (trap : ε) (value : α) (s : σ) :
    (force trap (some value)).run s = .ok value s := rfl

@[simp] theorem run_force_none (trap : ε) (s : σ) :
    (force trap (none : Option α)).run s = .error trap s := rfl

end Trapping
