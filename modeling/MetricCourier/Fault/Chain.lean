import MetricCourier.Fault

/-!
# Chains of conversions

On its way through sinks, clients and handlers a fault changes its form several times. A `Carried`
fault is in one of the two forms, and a `Conversion` takes it to the other one or wraps it. A chain
of conversions is followed as long as each applies to the form that the one before left.

No conversion changes what a fault says or what caused it (`text_of_convert`, `cause_of_convert`).
-/

namespace MetricCourier

/-- A fault in one of its two forms. -/
inductive Carried
  | asFault (fault : Fault)
  | asIo (fault : IoFault)
  deriving DecidableEq

/-- A change of form. -/
inductive Conversion
  /-- To an input/output fault, as a sink reports it. -/
  | toIo
  /-- From an input/output fault, as a client receives it. -/
  | toFault
  /-- Into an input/output fault of the given kind, from either form. -/
  | wrap (kind : IoKind)
  deriving DecidableEq

namespace Carried

/-- The words for the fault. -/
def text : Carried → String
  | asFault f => f.text
  | asIo f => f.text

/-- The words for the cause of the fault, if it has one. -/
def cause : Carried → Option String
  | asFault f => f.cause
  | asIo f => f.cause

/-- Changes the form, where the conversion applies to it. -/
def convert : Carried → Conversion → Option Carried
  | asFault f, .toIo => some (asIo f.toIo)
  | asIo f, .toFault => some (asFault (.ofIo f))
  | asFault f, .wrap k => some (asIo (f.wrap k))
  | asIo f, .wrap k => some (asIo (.around k f))
  | asFault _, .toFault | asIo _, .toIo => none

/-- Follows a chain of conversions; the results are those of each step. -/
def follow : Carried → List Conversion → Option (List Carried)
  | _, [] => some []
  | c, step :: rest => do
    let next ← c.convert step
    let results ← next.follow rest
    return next :: results

/-- A conversion keeps the words for the fault. -/
theorem text_of_convert {c d : Carried} {step : Conversion} (h : c.convert step = some d) :
    d.text = c.text := by
  unfold convert at h
  split at h <;> cases h
  · next f => cases f <;> rfl
  · next f => cases f <;> rfl
  · next f k => exact Fault.text_wrap k f
  · rfl

/-- A conversion keeps the words for the cause. -/
theorem cause_of_convert {c d : Carried} {step : Conversion} (h : c.convert step = some d) :
    d.cause = c.cause := by
  unfold convert at h
  split at h <;> cases h
  · next f => cases f <;> rfl
  · next f => cases f <;> rfl
  · next f k => exact Fault.cause_wrap k f
  · rfl

end Carried

end MetricCourier
