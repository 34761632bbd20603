/-!
# Instrumentation contexts

A program that watches itself may want to know when a delivery worker runs, so that it does not
watch that too. The worker enters such a context when it starts; the context answers whether it
was entered, and only then has to be left again.

A context is given by the answers that it will give, the last of which it repeats.
-/

namespace MetricCourier

/-- An instrumentation context, by the answers that entering it will have. -/
structure Context where
  answers : List Bool
  deriving DecidableEq, Inhabited

namespace Context

/-- The context that is never entered. -/
def none : Context := ⟨[]⟩

/-- Enters the context: its answer, and the context for the next time. -/
def enter (c : Context) : Bool × Context :=
  match c.answers with
  | [] => (false, c)
  | [answer] => (answer, c)
  | answer :: rest => (answer, ⟨rest⟩)

end Context

end MetricCourier
