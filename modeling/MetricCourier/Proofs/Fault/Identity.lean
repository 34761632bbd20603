import MetricCourier.Fault.Chain

/-!
# Faults keep their identity

However often a fault changes its form, it says the same and has the same cause; and a fault of the
library keeps its kind until an input/output fault is wrapped (`identity_kept`).

The conversions look at the direct payload of an input/output fault only. So what a chain can lose
is the description that can still be found there, `described?`: a conversion keeps it, unless it
wraps an input/output fault, and then it is gone for good (`described?_of_convert`). For this to
hold a fault that was passed on must not have a described one as its direct payload, since
`Fault.toIo` would bring that back to light; `Settled` says so. Faults begin settled, and
conversions keep them settled (`settled_of_convert`), because the only way to pass on an
input/output fault, `Fault.ofIo`, takes out a described one that it finds. It is also why the way to
an input/output fault and back changes nothing.

Which chains can be followed, and where they wrap an input/output fault, is said by the forms alone
(`Fits`, `rewraps`).
-/

namespace MetricCourier

/-! ### Forms -/

namespace Conversion

/-- Can the conversion be applied to an input/output fault, or to a fault of the library? -/
def applies : Conversion → (isIo : Bool) → Bool
  | toIo, isIo => !isIo
  | toFault, isIo => isIo
  | wrap _, _ => true

/-- Does the conversion yield an input/output fault? -/
def yieldsIo : Conversion → Bool
  | toIo | wrap _ => true
  | toFault => false

def isWrap : Conversion → Bool
  | wrap _ => true
  | toIo | toFault => false

/-- Each conversion of the chain applies to the form that the one before left. -/
def Fits : (isIo : Bool) → List Conversion → Prop
  | _, [] => True
  | isIo, step :: rest => step.applies isIo = true ∧ Fits step.yieldsIo rest

/-- Is an input/output fault wrapped anywhere in the chain? -/
def rewraps : (isIo : Bool) → List Conversion → Bool
  | _, [] => false
  | isIo, step :: rest => step.isWrap && isIo || rewraps step.yieldsIo rest

end Conversion

open Conversion (Fits rewraps)

namespace Carried

def isIo : Carried → Bool
  | asIo _ => true
  | asFault _ => false

/-- The kind of a fault; every input/output fault is of the one kind `io`. -/
def kind : Carried → FaultKind
  | asFault f => f.kind
  | asIo _ => .io

/-- The faults with which a chain starts: one that the library describes, or an input/output fault
that carries no other, has a text, or has a text and a cause. -/
inductive Original : Carried → Prop
  | described (kind : FaultKind) (text : String) : Original (asFault (.described kind text))
  | bare (kind : IoKind) : Original (asIo (.bare kind))
  | message (kind : IoKind) (text : String) : Original (asIo (.message kind text))
  | caused (kind : IoKind) (text : String) (cause : IoFault) :
    Original (asIo (.caused kind text cause))

variable {c d : Carried} {step : Conversion} {steps : List Conversion} {results : List Carried}

/-! ### What a conversion can lose -/

/-- The description of a fault of the library, where it can still be found: in the fault itself, or
in the direct payload of an input/output fault. -/
def described? : Carried → Option (FaultKind × String)
  | asFault (.described kind text) => some (kind, text)
  | asIo (.carrying _ kind text) => some (kind, text)
  | _ => none

/-- No input/output fault that was passed on has a described fault as its direct payload. -/
def Settled : Carried → Prop
  | asFault (.io (.carrying _ _ _)) => False
  | _ => True

theorem Original.settled (h : c.Original) : c.Settled := by
  cases h <;> trivial

theorem Original.kind_eq (h : c.Original) : c.kind = (c.described?.map Prod.fst).getD .io := by
  cases h <;> rfl

/-- The kind of a settled fault is that of the description that can be found. -/
theorem Settled.kind_eq {f : Fault} (h : (asFault f).Settled) :
    f.kind = ((asFault f).described?.map Prod.fst).getD .io := by
  -- an input/output fault is of the kind `io`, unless a described one is its direct payload
  cases f with
  | described kind text => rfl
  | io f =>
    cases f with
    | carrying kind inner text => exact h.elim
    | _ => rfl

/-- The way to an input/output fault and back changes nothing. -/
theorem Settled.ofIo_toIo {f : Fault} (h : (asFault f).Settled) : Fault.ofIo f.toIo = f := by
  apply Fault.ofIo_toIo
  rintro kind inner text rfl
  exact h

theorem settled_ofIo (f : IoFault) : (asFault (.ofIo f)).Settled := by
  cases f <;> trivial

/-- Conversions keep faults settled. -/
theorem settled_of_convert (h : c.convert step = some d) : d.Settled := by
  -- only `ofIo` makes a fault out of an input/output fault, and it takes out the payload
  unfold convert at h
  split at h <;> cases h
  · trivial
  · exact settled_ofIo _
  · trivial
  · trivial

/-- A conversion loses the description exactly if it wraps an input/output fault. -/
theorem described?_of_convert (hc : c.Settled) (h : c.convert step = some d) :
    d.described? = if step.isWrap && c.isIo then none else c.described? := by
  unfold convert at h
  split at h <;> cases h
  · -- to an input/output fault: the description becomes the payload, or there was none
    next f =>
    cases f with
    | described kind text => rfl
    | io f =>
      cases f with
      | carrying kind inner text => exact hc.elim
      | _ => rfl
  · -- back to a fault of the library: the payload is taken out
    next f => cases f <;> rfl
  · -- a fault of the library is wrapped: its description becomes the payload
    next f _ =>
    cases f with
    | described kind text => rfl
    | io f =>
      cases f with
      | carrying kind inner text => exact hc.elim
      | _ => rfl
  · -- an input/output fault is wrapped: what it carried is now one level too deep
    rfl

/-! ### Chains -/

theorem isIo_of_convert (h : c.convert step = some d) : d.isIo = step.yieldsIo := by
  unfold convert at h
  split at h <;> cases h <;> rfl

theorem exists_convert (h : step.applies c.isIo = true) : ∃ d, c.convert step = some d := by
  cases c <;> cases step <;> first | exact ⟨_, rfl⟩ | cases h

/-- A chain that fits can be followed to its end. -/
theorem exists_follow (h : Fits c.isIo steps) :
    ∃ results, c.follow steps = some results ∧ results.length = steps.length := by
  -- by induction on the chain, since each conversion leaves a form that the next applies to
  induction steps generalizing c with
  | nil => exact ⟨[], rfl, rfl⟩
  | cons step rest ih =>
    obtain ⟨happlies, hrest⟩ := h
    obtain ⟨d, hd⟩ := exists_convert happlies
    rw [← isIo_of_convert hd] at hrest
    obtain ⟨results, hresults, hlength⟩ := ih hrest
    exact ⟨d :: results, by simp [follow, hd, hresults], congrArg (· + 1) hlength⟩

/-- What a chain that begins with the one fault keeps up to the other, given whether it has wrapped
an input/output fault on the way. -/
structure Keeps (c : Carried) (rewrapped : Bool) (d : Carried) : Prop where
  text : d.text = c.text
  cause : d.cause = c.cause
  settled : d.Settled
  described : d.described? = if rewrapped then none else c.described?

theorem Keeps.refl (hc : c.Settled) : Keeps c false c := ⟨rfl, rfl, hc, rfl⟩

theorem Keeps.of_convert {e : Carried} {rewrapped : Bool} (hc : c.Settled)
    (h : c.convert step = some d) (hkeeps : Keeps d rewrapped e) :
    Keeps c (step.isWrap && c.isIo || rewrapped) e where
  text := hkeeps.text.trans (text_of_convert h)
  cause := hkeeps.cause.trans (cause_of_convert h)
  settled := hkeeps.settled
  described := by
    -- the description is lost here or later, or not at all
    rw [hkeeps.described, described?_of_convert hc h]
    cases rewrapped <;> cases step.isWrap && c.isIo <;> rfl

/-- Along a chain each result keeps what the start was, but for a description lost on the way. -/
theorem keeps_of_follow (hc : c.Settled) (h : c.follow steps = some results) (n : Nat)
    (hd : (c :: results)[n]? = some d) : Keeps c (rewraps c.isIo (steps.take n)) d := by
  -- by induction on the chain; a result is the start itself or a result of what is left
  induction steps generalizing c results n with
  | nil =>
    cases h
    cases n with
    | zero =>
      cases hd
      exact Keeps.refl hc
    | succ n => cases hd
  | cons step rest ih =>
    cases n with
    | zero =>
      cases hd
      exact Keeps.refl hc
    | succ n =>
      rw [follow, Option.bind_eq_bind, Option.bind_eq_some_iff] at h
      obtain ⟨next, hnext, h⟩ := h
      rw [Option.bind_eq_bind, Option.bind_eq_some_iff] at h
      obtain ⟨later, hlater, h⟩ := h
      cases h
      have hkeeps := ih (settled_of_convert hnext) hlater n hd
      rw [isIo_of_convert hnext] at hkeeps
      exact hkeeps.of_convert hc hnext

/-- **Faults keep their identity.** Every chain of conversions in which each applies to the form
before it can be followed to its end, and the start and each result have the text and the cause of
the start. A fault of the library among them has the kind of the start, which is `io` for an
input/output fault, unless an input/output fault was wrapped before it, and then its kind is `io`;
to an input/output fault and back it is itself again. An input/output fault is itself again after
the way to a fault of the library and back, unless its direct payload is a described fault, around
which there is then the kind `other`. -/
theorem identity_kept (hstart : c.Original) (hfits : Fits c.isIo steps) :
    (∃ results, c.follow steps = some results ∧ results.length = steps.length ∧
      ∀ n d, (c :: results)[n]? = some d → d.text = c.text ∧ d.cause = c.cause ∧
        ∀ fault, d = asFault fault →
          fault.kind = (if rewraps c.isIo (steps.take n) then .io else c.kind) ∧
          Fault.ofIo fault.toIo = fault) ∧
    (∀ fault : IoFault, (∀ kind inner text, fault ≠ .carrying kind inner text) →
      (Fault.ofIo fault).toIo = fault) ∧
    (∀ kind inner text, (Fault.ofIo (.carrying kind inner text)).toIo =
      .carrying .other inner text) := by
  refine ⟨?_, ?_, fun _ _ _ => rfl⟩
  · obtain ⟨results, hresults, hlength⟩ := exists_follow hfits
    refine ⟨results, hresults, hlength, fun n d hd => ?_⟩
    have hkeeps := keeps_of_follow hstart.settled hresults n hd
    refine ⟨hkeeps.text, hkeeps.cause, ?_⟩
    rintro fault rfl
    refine ⟨?_, hkeeps.settled.ofIo_toIo⟩
    -- the kind of a fault is read off the description that is still to be found
    rw [hkeeps.settled.kind_eq, hkeeps.described, hstart.kind_eq]
    split <;> rfl
  · intro fault hcarrying
    cases fault with
    | carrying kind inner text => exact absurd rfl (hcarrying kind inner text)
    | _ => rfl

/-- A full queue is reported through a sink, wrapped once on the way to a second one, and wrapped
twice on the way to a third. -/
def relay : List Conversion :=
  [.toIo, .toFault, .wrap .brokenPipe, .toFault, .wrap .timedOut, .wrap .other, .toFault]

/-- The kind is there after the second sink, and lost after the third; the words are kept. -/
theorem relay_keeps_kind_once :
    ∃ results fault fault', (asFault (.described .queueOverflow "queue full")).follow relay =
        some results ∧
      results[3]? = some (asFault fault) ∧ fault.kind = .queueOverflow ∧
      results[6]? = some (asFault fault') ∧ fault'.kind = .io ∧ fault'.text = "queue full" := by
  have hfits : Fits false relay := by simp [relay, Fits, Conversion.applies, Conversion.yieldsIo]
  obtain ⟨⟨results, hresults, -, hall⟩, -⟩ :=
    identity_kept (.described .queueOverflow "queue full") hfits
  cases hresults
  refine ⟨_, _, _, rfl, rfl, ?_, rfl, ?_, ?_⟩
  · exact ((hall 4 _ rfl).2.2 _ rfl).1
  · exact ((hall 7 _ rfl).2.2 _ rfl).1
  · exact (hall 7 _ rfl).1

end Carried

end MetricCourier
