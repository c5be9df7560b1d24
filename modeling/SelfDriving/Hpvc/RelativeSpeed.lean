import SelfDriving.Foundations.Floating
import SelfDriving.Foundations.Machine
import SelfDriving.Foundations.Python

/-! The estimate of the relative speed from the distance to the vehicle ahead: the slopes
between one sample and the next, through a low-pass filter. -/
namespace SelfDriving.Hpvc

/-- What an estimator is made with. -/
structure EstimatorParameters (α : Type) where
  filterTauS : α
  minDtS : α
  maxDtS : α
  maxAbsVMps : α

section
variable {α : Type} [FloatingMath α]

/-- The last distance and its time, which are set and cleared together, and the filtered speed. -/
structure RelativeSpeedEstimator (α : Type) where
  last : Option (α × α)
  vFilt : α

namespace RelativeSpeedEstimator

def reset : RelativeSpeedEstimator α := ⟨none, 0.0⟩

/-- The speed before the limits. -/
def filtered (parameters : EstimatorParameters α) (vFilt vRaw dt : α) : α :=
  let alpha := parameters.filterTauS / (parameters.filterTauS + dt)
  alpha * vFilt + ((1.0 : α) - alpha) * vRaw

/-- The estimator after a sample, with the speed and whether it is valid. -/
def update (parameters : EstimatorParameters α) (estimator : RelativeSpeedEstimator α) (dActual : Option α) (tNow : α) :
    RelativeSpeedEstimator α × α × Bool :=
  match dActual with
  | none => (reset, 0.0, false)
  | some dActual =>
    if !FloatingMath.isFinite dActual || dActual ≤ (0.0 : α) then (reset, 0.0, false)
    else
      match estimator.last with
      | none => (⟨some (dActual, tNow), 0.0⟩, 0.0, true)
      | some (lastD, lastT) =>
        let dt := tNow - lastT
        if dt < parameters.minDtS then (estimator, estimator.vFilt, true)
        else if dt > parameters.maxDtS then (⟨some (dActual, tNow), 0.0⟩, 0.0, true)
        else
          let vRaw := (dActual - lastD) / dt
          let vFilt := filtered parameters estimator.vFilt vRaw dt
          let vFilt := Python.max (-parameters.maxAbsVMps) (Python.min parameters.maxAbsVMps vFilt)
          (⟨some (dActual, tNow), vFilt⟩, vFilt, true)

end RelativeSpeedEstimator

/-- An estimator that is given one sample after another. -/
def relativeSpeed (parameters : EstimatorParameters α) :
    Machine (RelativeSpeedEstimator α) (Option α × α) (α × Bool) where
  step estimator sample := estimator.update parameters sample.1 sample.2

end
end SelfDriving.Hpvc
