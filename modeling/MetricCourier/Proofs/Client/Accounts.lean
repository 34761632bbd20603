import MetricCourier.Client.Clientele
import MetricCourier.Proofs.Delivery.Submitting

/-!
# The accounts of clients

What a clientele has of its errands, against what its system has of their lines. An errand that has
a line has a submission of that line among the calls of the system, and no other errand has the same
one; a client that has its answer has it from that submission (`Errand.Accounted`). What the
handlers were given is what came of the errands from which their clients have returned
(`Errand.report?`). `Clientele.Accounts` puts this together.

The accounts are kept by whatever the system does, since a submission stays in its place
(`Accounts.access`), and by each step of a client (`Accounts.client`); so they are in order in every
reachable clientele (`Reachable.accounts`).

A client whose submission is left alone comes to the end of its errand (`run_alone`), and from
wherever it is it can be brought there (`Reachable.returns`).
-/

namespace MetricCourier

/-! ### Errands -/

/-- The fault with which a call was turned away, once it has returned. -/
def Caller.fault? : Caller → Option Fault
  | submission (.returned _ (some why)) => some why.fault
  | _ => none

namespace Errand

/-- What the system has of an errand: nothing of one that had no line, and of any other a
submission of its line, which has returned if the client has its answer. -/
def Accounted (s : System) (errand : Errand) : Prop :=
  match errand.progress with
  | .rejected fault => errand.request.line errand.now = .error fault
  | .submitting number => ∃ call, s.callers[number]? = some (.submission call) ∧
      errand.request.line errand.now = .ok call.line
  | .reporting number fault => ∃ line why,
      s.callers[number]? = some (.submission (.returned line (some why))) ∧
      errand.request.line errand.now = .ok line ∧ fault = why.fault
  | .served number => ∃ line refusal,
      s.callers[number]? = some (.submission (.returned line refusal)) ∧
      errand.request.line errand.now = .ok line

/-- The number of the submission for an errand. -/
def number? (errand : Errand) : Option Nat := errand.progress.number?

/-- The call that was made for an errand. -/
def call? (s : System) (errand : Errand) : Option Caller :=
  errand.number?.bind fun number => s.callers[number]?

/-- What the handler of the client was given on an errand from which the client has returned. -/
def report? (attended : Nat → Bool) (s : System) (errand : Errand) : Option (Nat × Fault) :=
  match errand.progress with
  | .served number =>
    if attended errand.client then
      (s.callers[number]?.bind Caller.fault?).map fun fault => (errand.client, fault)
    else none
  | _ => none

variable {s t : System} {errand : Errand}

/-- However far the client has got, the call for its errand is a submission of the line. -/
theorem Accounted.exists_call (h : errand.Accounted s) {number : Nat}
    (hnumber : errand.number? = some number) :
    ∃ call, s.callers[number]? = some (.submission call) ∧
      errand.request.line errand.now = .ok call.line := by
  unfold Accounted at h
  unfold number? at hnumber
  -- in each of the stages the account names the submission, further on with its outcome
  cases hp : errand.progress with
  | rejected fault =>
    rw [hp] at hnumber
    cases hnumber
  | submitting n =>
    rw [hp] at h hnumber
    cases hnumber
    exact h
  | reporting n fault =>
    rw [hp] at h hnumber
    cases hnumber
    obtain ⟨line, why, hi, hline, -⟩ := h
    exact ⟨_, hi, hline⟩
  | served n =>
    rw [hp] at h hnumber
    cases hnumber
    obtain ⟨line, refusal, hi, hline⟩ := h
    exact ⟨_, hi, hline⟩

theorem Accounted.lt (h : errand.Accounted s) {number : Nat}
    (hnumber : errand.number? = some number) : number < s.callers.length := by
  obtain ⟨call, hi, -⟩ := h.exists_call hnumber
  exact (List.getElem?_eq_some_iff.mp hi).1

/-- An errand stays accounted for where submissions stay in their places. -/
theorem Accounted.of_becomes (h : errand.Accounted s)
    (hkeeps : ∀ (i : Nat) (c : Submission), s.callers[i]? = some (.submission c) →
      ∃ d, t.callers[i]? = some (.submission d) ∧ Submission.Becomes c d) :
    errand.Accounted t ∧ ∀ attended, errand.report? attended t = errand.report? attended s := by
  unfold Accounted report? at *
  cases hp : errand.progress with
  | rejected fault =>
    rw [hp] at h
    exact ⟨h, fun _ => rfl⟩
  -- the submission may go on, but keeps its line
  | submitting n =>
    rw [hp] at h
    obtain ⟨c, hi, hline⟩ := h
    obtain ⟨d, hi', hbecomes⟩ := hkeeps n c hi
    exact ⟨⟨d, hi', by rw [hline, hbecomes.line]⟩, fun _ => rfl⟩
  | reporting n fault =>
    rw [hp] at h
    obtain ⟨line, why, hi, hline, hfault⟩ := h
    obtain ⟨d, hi', hbecomes⟩ := hkeeps n _ hi
    rw [hbecomes.returned _ _ rfl] at hi'
    exact ⟨⟨line, why, hi', hline, hfault⟩, fun _ => rfl⟩
  | served n =>
    rw [hp] at h
    obtain ⟨line, refusal, hi, hline⟩ := h
    obtain ⟨d, hi', hbecomes⟩ := hkeeps n _ hi
    -- a submission that has returned is what it was
    rw [hbecomes.returned _ _ rfl] at hi'
    exact ⟨⟨line, refusal, hi', hline⟩, fun _ => by simp only [hi, hi']⟩

end Errand

/-- Replacing a member replaces what it gives. -/
theorem filterMap_set_perm {α β : Type} (f : α → Option β) {as : List α} {k : Nat} {a b : α}
    (h : as[k]? = some a) :
    ((f a).toList ++ (as.set k b).filterMap f).Perm ((f b).toList ++ as.filterMap f) := by
  have hperm : List.Perm _ _ := (perm_set (b := b) h).filterMap f
  -- the member in front gives at most one
  have hcons : ∀ (c : α) (cs : List α),
      (c :: cs).filterMap f = (f c).toList ++ cs.filterMap f := by
    intro c cs
    cases hc : f c with
    | none => rw [List.filterMap_cons_none hc, Option.toList_none, List.nil_append]
    | some d => rw [List.filterMap_cons_some hc, Option.toList_some, List.singleton_append]
  rwa [hcons, hcons] at hperm

namespace Clientele

variable {attended : Nat → Bool} {c d : Clientele}

/-- The submissions that clients have made. -/
def numbers (c : Clientele) : List Nat := c.errands.filterMap Errand.number?

/-- The accounts of the clients are in order. -/
structure Accounts (attended : Nat → Bool) (c : Clientele) : Prop where
  errands : ∀ errand ∈ c.errands, errand.Accounted c.system
  /-- No two errands have the same submission. -/
  nodup : c.numbers.Nodup
  /-- The handlers were given the faults with which the lines of their clients were turned away. -/
  heard : c.heard.Perm (c.errands.filterMap (·.report? attended c.system))

theorem Accounts.new (threadName : String) (capacity : Nat) :
    Accounts attended (new threadName capacity) where
  errands _ h := absurd h List.not_mem_nil
  nodup := List.nodup_nil
  heard := .nil

theorem Accounts.access {action : MetricCourier.Action} {system : System}
    (hI : c.Accounts attended) (h : System.Access action c.system system) :
    Accounts attended { c with system } := by
  have hkeeps : ∀ errand ∈ c.errands, errand.Accounted system ∧
      ∀ attended, errand.report? attended system = errand.report? attended c.system :=
    fun errand hmem => (hI.errands errand hmem).of_becomes fun _ _ hi =>
      System.submission_of_access h hi
  refine ⟨fun errand hmem => (hkeeps errand hmem).1, hI.nodup, ?_⟩
  -- what is to be reported of each errand is the same, so what was heard still fits
  have hsame : c.errands.filterMap (·.report? attended system) =
      c.errands.filterMap (·.report? attended c.system) :=
    List.filterMap_congr fun errand hmem => (hkeeps errand hmem).2 attended
  change c.heard.Perm (c.errands.filterMap (·.report? attended system))
  rw [hsame]
  exact hI.heard

/-- A new errand, on which nothing has been reported, keeps the accounts. -/
theorem Accounts.add {errand : Errand} (hI : c.Accounts attended)
    (haccounted : errand.Accounted c.system)
    (hnew : ∀ number, errand.number? = some number → number ∉ c.numbers)
    (hsilent : errand.report? attended c.system = none) :
    Accounts attended { c with errands := c.errands ++ [errand] } := by
  refine ⟨?_, ?_, ?_⟩
  · intro other hother
    obtain hold | hlast := List.mem_append.mp hother
    · exact hI.errands other hold
    · rw [List.mem_singleton.mp hlast]
      exact haccounted
  · change ((c.errands ++ [errand]).filterMap _).Nodup
    rw [List.filterMap_append]
    cases hnumber : errand.number? with
    | none =>
      rw [List.filterMap_cons_none hnumber, List.filterMap_nil, List.append_nil]
      exact hI.nodup
    | some number =>
      rw [List.filterMap_cons_some hnumber, List.filterMap_nil, List.nodup_append]
      -- its submission is not one of those before
      refine ⟨hI.nodup, by simp, ?_⟩
      rintro a ha b hb rfl
      rw [List.mem_singleton.mp hb] at ha
      exact hnew number hnumber ha
  · change c.heard.Perm ((c.errands ++ [errand]).filterMap _)
    -- there is nothing yet that the handler should have heard of it
    rw [List.filterMap_append, List.filterMap_cons_none hsilent, List.filterMap_nil,
      List.append_nil]
    exact hI.heard

/-- A client that goes on with its errand, and reports what there is to report, keeps the
accounts. -/
theorem Accounts.goesOn {k : Nat} {before after : Errand} {heard : List (Nat × Fault)}
    (hI : c.Accounts attended) (hk : c.errands[k]? = some before)
    (hnumber : after.number? = before.number?)
    (haccounted : after.Accounted c.system)
    (hsilent : before.report? attended c.system = none)
    (hheard : heard = c.heard ++ (after.report? attended c.system).toList) :
    Accounts attended { c with errands := c.errands.set k after, heard } := by
  refine ⟨forall_mem_set hI.errands haccounted, ?_, ?_⟩
  · -- the numbers are the same
    have hperm := filterMap_set_perm (b := after) Errand.number? hk
    rw [hnumber] at hperm
    exact ((List.perm_append_left_iff _).mp hperm).nodup_iff.mpr hI.nodup
  · have hperm := filterMap_set_perm (b := after) (·.report? attended c.system) hk
    -- nothing was reported before, so all that is reported now has to be heard now
    rw [hsilent] at hperm
    change heard.Perm ((c.errands.set k after).filterMap _)
    rw [hheard]
    exact (hI.heard.append_right _).trans (List.perm_append_comm.trans hperm.symm)

/-- What a client does on an errand: it receives the answer to the submission of its line, or it
reports a fault to its handler and returns. -/
theorem cases_of_client {k : Nat} (h : c.act attended (.client k) = some d) :
    ∃ errand, c.errands[k]? = some errand ∧
      ((∃ number call reply, errand.progress = .submitting number ∧
          c.system.callers[number]? = some (.submission call) ∧ call.reply? = some reply ∧
          d = { c with
            errands := c.errands.set k { errand with progress := .received number reply } }) ∨
        ∃ number fault, errand.progress = .reporting number fault ∧
          d = { c with
            errands := c.errands.set k { errand with progress := .served number }
            heard := c.heard ++
              if attended errand.client then [(errand.client, fault)] else [] }) := by
  simp only [act, Option.bind_eq_bind, Option.bind_eq_some_iff] at h
  obtain ⟨errand, hk, h⟩ := h
  refine ⟨errand, hk, ?_⟩
  cases hp : errand.progress with
  | submitting number =>
    rw [hp] at h
    simp only at h
    -- there is an answer only if the submission has returned
    split at h
    · next call hcall =>
      obtain ⟨reply, hreply, rfl⟩ := Option.map_eq_some_iff.mp h
      exact Or.inl ⟨number, call, reply, rfl, hcall, hreply, rfl⟩
    · cases h
  | reporting number fault =>
    rw [hp] at h
    simp only [tell, Option.some.injEq] at h
    refine Or.inr ⟨number, fault, rfl, ?_⟩
    rw [← h]
    cases attended errand.client <;> simp
  | rejected fault =>
    rw [hp] at h
    cases h
  | served number =>
    rw [hp] at h
    cases h

theorem Accounts.client {k : Nat} (hI : c.Accounts attended)
    (h : c.act attended (.client k) = some d) : d.Accounts attended := by
  obtain ⟨errand, hk, hstep⟩ := cases_of_client h
  have haccounted := hI.errands errand (List.mem_of_getElem? hk)
  unfold Errand.Accounted at haccounted
  obtain ⟨number, call, reply, hp, hcall, hreply, rfl⟩ | ⟨number, fault, hp, rfl⟩ := hstep
  · -- the answer says what came of the line, and nothing is reported yet
    rw [hp] at haccounted
    obtain ⟨_, hi, hline⟩ := haccounted
    rw [hcall] at hi
    cases hi
    have hsilent : errand.report? attended c.system = none := by rw [Errand.report?, hp]
    cases call with
    | returned line refusal =>
      cases refusal with
      | none =>
        cases hreply
        -- the line was accepted, and the client is through
        refine hI.goesOn hk ?_ ⟨line, none, hcall, hline⟩ hsilent ?_
        · rw [Errand.number?, Errand.number?, hp]
          rfl
        · cases ha : attended errand.client <;>
            simp [Errand.report?, Progress.received, hcall, Caller.fault?, ha]
      | some why =>
        cases hreply
        -- the fault comes back out of the error, and its report is still to come
        refine hI.goesOn hk ?_ ⟨line, why, hcall, hline, why.ofIo_toIo_fault⟩ hsilent ?_
        · rw [Errand.number?, Errand.number?, hp]
          rfl
        · exact (List.append_nil _).symm
    | _ => cases hreply
  · -- what is reported is the fault with which the line was turned away
    rw [hp] at haccounted
    obtain ⟨line, why, hcall, hline, rfl⟩ := haccounted
    refine hI.goesOn hk ?_ ⟨line, some why, hcall, hline⟩ (by rw [Errand.report?, hp]) ?_
    · rw [Errand.number?, Errand.number?, hp]
      rfl
    · cases ha : attended errand.client <;>
        simp [Errand.report?, hcall, Caller.fault?, ha]

/-- **Every access and every step keeps the accounts of the clients.** -/
theorem Accounts.act {action : Action} (hI : c.Accounts attended)
    (h : c.act attended action = some d) : d.Accounts attended := by
  cases action with
  | access action =>
    obtain ⟨system, hsystem, rfl⟩ := Option.map_eq_some_iff.mp h
    exact hI.access (System.access_of_act hsystem)
  | client k => exact hI.client h
  | request client now request =>
    unfold Clientele.act at h
    cases hline : request.line now with
    | error fault =>
      simp only [hline, Option.some.injEq] at h
      rw [← h]
      -- without a line there is no submission, and the fault goes to the client itself
      exact hI.add hline nofun rfl
    | ok line =>
      simp only [hline, Option.map_eq_some_iff] at h
      obtain ⟨system, hsystem, rfl⟩ := h
      have haccess := System.access_of_act hsystem
      have harrived := hI.access haccess
      cases haccess
      refine harrived.add ⟨_, List.getElem?_concat_length, hline⟩ ?_ rfl
      -- a call that has just arrived comes after those made before
      rintro number hnumber hmem
      cases hnumber
      obtain ⟨other, hother, hsame⟩ := List.mem_filterMap.mp hmem
      exact Nat.lt_irrefl _ ((hI.errands other hother).lt hsame)

theorem system_of_act {action : Action} (h : c.act attended action = some d) :
    d.system = c.system ∨ ∃ action', c.system.act action' = some d.system := by
  cases action with
  | access action =>
    obtain ⟨system, hsystem, rfl⟩ := Option.map_eq_some_iff.mp h
    exact Or.inr ⟨action, hsystem⟩
  | client k =>
    obtain ⟨errand, -, ⟨_, _, _, -, -, -, rfl⟩ | ⟨_, _, -, rfl⟩⟩ := cases_of_client h
    · -- a step of a client changes its errand and what was heard, not the system
      exact Or.inl rfl
    · exact Or.inl rfl
  | request client now request =>
    unfold Clientele.act at h
    cases hline : request.line now with
    | error fault =>
      simp only [hline, Option.some.injEq] at h
      rw [← h]
      exact Or.inl rfl
    | ok line =>
      simp only [hline, Option.map_eq_some_iff] at h
      obtain ⟨system, hsystem, rfl⟩ := h
      exact Or.inr ⟨_, hsystem⟩

variable {threadName : String} {capacity : Nat}

/-- **The accounts of a reachable clientele are in order**, and so is the system that its clients
share. -/
theorem Reachable.accounts (h : Reachable attended threadName capacity c) :
    System.Reachable threadName capacity c.system ∧ c.Accounts attended := by
  have hstep : ∀ (actions : List Action) (c d : Clientele),
      System.Reachable threadName capacity c.system ∧ c.Accounts attended →
      c.run attended actions = some d →
      System.Reachable threadName capacity d.system ∧ d.Accounts attended := by
    intro actions
    induction actions with
    | nil =>
      intro c d hc hrun
      rw [run_nil] at hrun
      cases hrun
      exact hc
    | cons action rest ih =>
      intro c d ⟨hsystem, haccounts⟩ hrun
      rw [run_cons, Option.bind_eq_some_iff] at hrun
      obtain ⟨e, he, hrest⟩ := hrun
      -- the system is carried along, since accounts are kept by its accesses
      refine ih e d ⟨?_, haccounts.act he⟩ hrest
      obtain hsame | ⟨action', hact⟩ := system_of_act he
      · rwa [hsame]
      · exact hsystem.act hact
  obtain ⟨actions, hrun⟩ := h
  exact hstep actions _ c ⟨⟨[], rfl⟩, Accounts.new threadName capacity⟩ hrun

/-! ### Clients return -/

theorem run_trans {e : Clientele} {first second : List Action}
    (h : c.run attended first = some d) (h' : d.run attended second = some e) :
    c.run attended (first ++ second) = some e := by
  rw [run, List.foldlM_append, Option.bind_eq_bind, Option.bind_eq_some_iff]
  exact ⟨d, h, h'⟩

/-- A run of the system is a run of the clientele. -/
theorem run_access {system : System} {actions : List MetricCourier.Action}
    (h : c.system.run actions = some system) :
    c.run attended (actions.map .access) = some { c with system } := by
  induction actions generalizing c with
  | nil =>
    rw [System.run_nil] at h
    cases h
    rfl
  | cons action rest ih =>
    rw [System.run_cons, Option.bind_eq_some_iff] at h
    obtain ⟨next, hnext, hrest⟩ := h
    have hact : c.act attended (.access action) = some { c with system := next } := by
      rw [act, hnext]
      rfl
    rw [List.map_cons, run_cons, hact]
    exact ih hrest

/-- A client that has a fault to report does so and returns. -/
theorem act_reporting (attended : Nat → Bool) {k number : Nat} {errand : Errand} {fault : Fault}
    (hk : c.errands[k]? = some errand) (hp : errand.progress = .reporting number fault) :
    c.act attended (.client k) = some { c with
      errands := c.errands.set k { errand with progress := .served number }
      heard := c.heard ++ if attended errand.client then [(errand.client, fault)] else [] } := by
  simp only [act, Option.bind_eq_bind, hk, Option.bind_some, hp, tell]
  cases attended errand.client <;> simp

/-- Once its submission has returned a client comes to its end, and has then reported what there
was to report. -/
theorem run_returned (attended : Nat → Bool) {k number : Nat} {errand : Errand} {line : Line}
    {refusal : Option Refusal}
    (hk : c.errands[k]? = some errand) (hp : errand.progress = .submitting number)
    (hcall : c.system.callers[number]? = some (.submission (.returned line refusal))) :
    ∃ steps, c.run attended (List.replicate steps (.client k)) = some { c with
      errands := c.errands.set k { errand with progress := .served number }
      heard := c.heard ++ if attended errand.client
        then refusal.toList.map fun why => (errand.client, why.fault) else [] } := by
  have hlt : k < c.errands.length := (List.getElem?_eq_some_iff.mp hk).1
  cases refusal with
  | none =>
    refine ⟨1, ?_⟩
    rw [List.replicate_one, run_cons]
    simp [act, hk, hp, hcall, Submission.reply?, Progress.received]
  | some why =>
    refine ⟨2, ?_⟩
    -- first the answer is received, then the fault is reported
    have hact : c.act attended (.client k) = some { c with
        errands := c.errands.set k { errand with progress := .reporting number why.fault } } := by
      simp [act, hk, hp, hcall, Submission.reply?, Progress.received, why.ofIo_toIo_fault]
    rw [List.replicate_succ, List.replicate_one, run_cons, hact, Option.bind_some, run_cons,
      act_reporting attended (List.getElem?_set_self hlt) rfl]
    simp

/-- A client whose submission is left alone comes to its end. -/
theorem run_alone (attended : Nat → Bool) {k number : Nat} {errand : Errand} {call : Submission}
    (hk : c.errands[k]? = some errand) (hp : errand.progress = .submitting number)
    (hi : c.system.callers[number]? = some (.submission call))
    (hw : c.system.station.writer = false) :
    ∃ actions d refusal, c.run attended actions = some d ∧
      d.errands[k]? = some { errand with progress := .served number } ∧
      call.alone 5 c.system.station = (.returned call.line refusal, d.system.station) ∧
      d.heard = c.heard ++ if attended errand.client
        then refusal.toList.map fun why => (errand.client, why.fault) else [] := by
  have hlt : k < c.errands.length := (List.getElem?_eq_some_iff.mp hk).1
  -- first the accesses of the submission, then the answer
  obtain ⟨m, t, hrun, hstation, hcall⟩ := System.exists_alone 5 hi
  obtain ⟨refusal, hreturned⟩ := Submission.alone_returns hw call.left_le
  rw [hreturned] at hcall
  obtain ⟨steps, hlast⟩ :=
    run_returned (c := { c with system := t }) attended hk hp hcall
  exact ⟨_, _, refusal, run_trans (run_access hrun) hlast, List.getElem?_set_self hlt,
    Prod.ext hreturned hstation.symm, rfl⟩

/-- The lock can be had: if the worker holds it, the worker lets go of it with its next access. -/
theorem exists_unlocked {s : System} (h : s.Lifecycle) :
    ∃ actions t, s.run actions = some t ∧ t.callers = s.callers ∧ t.station.writer = false := by
  cases hw : s.station.writer with
  | false => exact ⟨[], s, rfl, rfl, hw⟩
  | true =>
    -- only a worker about to close the queue has the write side
    have hp : s.station.phase = .locked := by
      have hlocked := h.flags.writer
      rw [hw] at hlocked
      exact of_decide_eq_true hlocked.symm
    refine ⟨[.worker .proceed], { s with
      station := { s.station with closed := true, writer := false, phase := .draining } }, ?_,
      rfl, rfl⟩
    rw [System.run_cons, System.act, Station.move, Station.proceed, hp]
    rfl

variable {threadName : String} {capacity : Nat}

/-- **A client returns with success from every errand that has a line**, with what it needs done by
others being one access of the worker at most. -/
theorem Reachable.returns (h : Reachable attended threadName capacity c) {k : Nat}
    {errand : Errand} (hk : c.errands[k]? = some errand) (hline : errand.number?.isSome = true) :
    ∃ actions d number, c.run attended actions = some d ∧
      d.errands[k]? = some { errand with progress := .served number } := by
  obtain ⟨hsystem, haccounts⟩ := h.accounts
  have haccounted := haccounts.errands errand (List.mem_of_getElem? hk)
  unfold Errand.Accounted at haccounted
  cases hp : errand.progress with
  | rejected fault =>
    rw [Errand.number?, hp] at hline
    cases hline
  -- in this case nothing is left to do
  | served number => exact ⟨[], c, number, rfl, by rw [hk, ← hp]⟩
  | reporting number fault =>
    have hlt : k < c.errands.length := (List.getElem?_eq_some_iff.mp hk).1
    have hact := act_reporting attended hk hp
    exact ⟨[.client k], _, number, by rw [run_cons, hact]; rfl, List.getElem?_set_self hlt⟩
  | submitting number =>
    rw [hp] at haccounted
    obtain ⟨call, hi, -⟩ := haccounted
    -- with the lock free, the submission comes to its end alone
    obtain ⟨first, t, hfirst, hcallers, hw⟩ := exists_unlocked hsystem.lifecycle
    rw [← hcallers] at hi
    obtain ⟨second, d, -, hsecond, hserved, -⟩ :=
      run_alone (c := { c with system := t }) attended hk hp hi hw
    exact ⟨_, d, number, run_trans (run_access hfirst) hsecond, hserved⟩

end Clientele

end MetricCourier
