import MetricCourier.Proofs.Client.Accounts
import MetricCourier.Proofs.Client.Routing
import MetricCourier.Proofs.Delivery.Conservation

/-!
# Clients account for every line

Of a line that a client of a pipeline sends, somebody hears: either it is accepted, which the
pipeline counts, or it is turned away, which the pipeline counts as well and the client's handler is
told. An observation without a line is returned to the caller and concerns nobody else.

For one request that is a matter of the pipeline as a sink (`System.Reachable.settles`), in any
state that the calls of others may have left the station in. A request is also an errand that nobody
disturbs (`Clientele.errand_alone`); for errands that go on at once, each in the middle of the
others, it follows from the accounts of the clientele (`Accounts.served`). The sums then come from
the books of the station: all its calls are those of clients, one for each errand, and those that
no client made (`Accounts.countP_callers`).
-/

namespace MetricCourier

/-! ### One request -/

namespace Client

variable {σ η : Type} {wrapped : Sink σ} {c : Client (Pipeline σ) η}

/-- A client of a pipeline returns with success for a line that it sends, and gives its handler
the fault with which the pipeline turned the line away. -/
theorem perform_through (hsink : c.sink = Pipeline.asSink wrapped) {now : Instant}
    {request : Request} {line : Line} (hline : request.line now = .ok line)
    (w : World (Pipeline σ) η) :
    c.perform now request w = (.returned (.ok ()),
      { sink := (w.sink.trySubmit line).2
        handler :=
          match (w.sink.trySubmit line).1 with
          | .ok () => w.handler
          | .error fault => c.handle fault w.handler }) := by
  have hemit : c.sink.emitLine line w.sink = w.sink.emit line := by rw [hsink]; rfl
  unfold Pipeline.emit Pipeline.trySubmit at hemit
  unfold Pipeline.trySubmit
  -- what the pipeline answers as a sink decides what the client does with it
  cases hsubmit : w.sink.station.submit line with | mk result station
  rw [hsubmit] at hemit
  cases result with
  | ok _ => exact c.perform_of_line hline hemit
  | error why =>
    rw [c.perform_of_line hline hemit, receive, why.ofIo_toIo_fault]
    rfl

end Client

namespace Pipeline

variable {σ : Type}

/-- The line is accepted: it waits behind the others and is counted as submitted. -/
structure Takes (p : Pipeline σ) (line : Line) (q : Pipeline σ) : Prop where
  answer : p.trySubmit line = (.ok (), q)
  waiting : q.station.waiting = p.station.waiting ++ [line]
  submitted : q.station.submitted = p.station.submitted + 1
  dropped : q.station.dropped = p.station.dropped

/-- The line is turned away with this fault, for the reason that it names, and counted as dropped;
the queue stays as it is. -/
structure TurnsAway (capacity : Nat) (p : Pipeline σ) (line : Line) (fault : Fault)
    (q : Pipeline σ) : Prop where
  answer : p.trySubmit line = (.error fault, q)
  reason : fault = Refusal.stopped.fault ∧ p.station.stopping = true ∨
    fault = Refusal.full.fault ∧ p.station.stopping = false ∧
      p.station.waiting.length = capacity
  waiting : q.station.waiting = p.station.waiting
  submitted : q.station.submitted = p.station.submitted
  dropped : q.station.dropped = p.station.dropped + 1

end Pipeline

/-- What becomes of a request to a client of a pipeline. Without a line it returns a fault of the
one kind, and everything stays as it was. With a line it returns with success, and the line is
either accepted or turned away, with the fault for the handler. -/
def Client.Settles {σ η : Type} (capacity : Nat) (c : Client (Pipeline σ) η) (now : Instant)
    (request : Request) (w : World (Pipeline σ) η) : Prop :=
  match request.line now with
  | .error fault => fault.kind = .invalidObservation ∧
      c.perform now request w = (.returned (.error fault), w)
  | .ok line =>
    (∃ q, w.sink.Takes line q ∧ c.perform now request w = (.returned (.ok ()), ⟨q, w.handler⟩)) ∨
    ∃ fault q, w.sink.TurnsAway capacity line fault q ∧
      c.perform now request w = (.returned (.ok ()), ⟨q, c.handle fault w.handler⟩)

/-- Every request is settled, whatever else goes on in the system of the pipeline. -/
theorem System.Reachable.settles {σ η : Type} {s : System} {threadName : String} {capacity : Nat}
    (h : Reachable threadName capacity s) {wrapped : Sink σ} {c : Client (Pipeline σ) η}
    (hsink : c.sink = Pipeline.asSink wrapped) {w : World (Pipeline σ) η}
    (hstation : w.sink.station = s.station) (now : Instant) (request : Request) :
    c.Settles capacity now request w := by
  unfold Client.Settles
  cases hline : request.line now with
  | error fault => exact ⟨Request.kind_of_line_eq_error hline, c.perform_of_error w hline⟩
  | ok line =>
    -- the station is that of a reachable system, and its queue and flags are in order
    have hperform := c.perform_through hsink hline w
    have hrefuses := h.lifecycle.refuses_iff
    rw [← hstation] at hrefuses
    obtain ⟨hok, -, -, hwaiting, hsubmitted, hdropped⟩ |
        ⟨why, herror, hreason, hwaiting, hsubmitted, hdropped⟩ :=
      Station.submit_cases (hstation ▸ h.bounded) line
    · have hanswer : w.sink.trySubmit line = (.ok (), (w.sink.trySubmit line).2) :=
        Prod.ext (congrArg (Except.mapError Refusal.fault) hok) rfl
      rw [hanswer] at hperform
      exact Or.inl ⟨_, ⟨hanswer, hwaiting, hsubmitted, hdropped⟩, hperform⟩
    · have hanswer : w.sink.trySubmit line = (.error why.fault, (w.sink.trySubmit line).2) :=
        Prod.ext (congrArg (Except.mapError Refusal.fault) herror) rfl
      rw [hanswer] at hperform
      refine Or.inr ⟨why.fault, _, ⟨hanswer, ?_, hwaiting, hsubmitted, hdropped⟩, hperform⟩
      obtain ⟨rfl, hr⟩ | ⟨rfl, hr, hlength⟩ := hreason
      · exact Or.inl ⟨rfl, hrefuses.mp hr⟩
      · -- past the flags the station was not asked to stop
        have hstopping : w.sink.station.stopping = false := by
          rw [Bool.eq_false_iff, ne_eq, ← hrefuses, hr]
          exact Bool.false_ne_true
        exact Or.inr ⟨rfl, hstopping, hlength⟩

namespace Clientele

variable {attended : Nat → Bool} {c d : Clientele}

/-- **An errand that nobody disturbs is a request to a client of the pipeline.** It leaves the
station as the request does, is answered like it, and gives the same fault to the handler if there
is one. -/
theorem errand_alone {σ : Type} {wrapped : Sink σ} {w : World (Pipeline σ) (List Fault)}
    (hstation : w.sink.station = c.system.station) (hw : c.system.station.writer = false)
    (client : Nat) (now : Instant) (request : Request) :
    ∃ actions d errand answer faults sink,
      c.run attended (.request client now request :: actions) = some d ∧
      d.errands[c.errands.length]? = some errand ∧ errand.progress.answer? = some answer ∧
      (Client.recording (Pipeline.asSink wrapped)).perform now request w =
        (.returned answer, ⟨sink, faults ++ w.handler⟩) ∧
      d.system.station = sink.station ∧
      d.heard = c.heard ++
        if attended client then faults.map fun fault => (client, fault) else [] := by
  cases hline : request.line now with
  | error fault =>
    -- the fault is the answer, and nothing is sent
    have hact : ∃ e, c.act attended (.request client now request) = some e ∧
        e.system = c.system ∧ e.heard = c.heard ∧
        e.errands[c.errands.length]? = some ⟨client, now, request, .rejected fault⟩ := by
      rw [act, hline]
      exact ⟨_, rfl, rfl, rfl, List.getElem?_concat_length⟩
    obtain ⟨e, hact, hsame, hheard, hk⟩ := hact
    refine ⟨[], e, _, _, [], w.sink, by rw [run_cons, hact]; rfl, hk, rfl,
      Client.perform_of_error _ w hline, by rw [hsame, hstation], ?_⟩
    rw [hheard, List.map_nil, ite_self, List.append_nil]
  | ok line =>
    -- the call arrives behind all others, and is then left alone
    have hact : ∃ e, c.act attended (.request client now request) = some e ∧
        e.system.station = c.system.station ∧ e.heard = c.heard ∧
        e.errands[c.errands.length]? =
          some ⟨client, now, request, .submitting c.system.callers.length⟩ ∧
        e.system.callers[c.system.callers.length]? = some (.submission (.arriving line)) := by
      rw [act, hline]
      exact ⟨_, rfl, rfl, rfl, List.getElem?_concat_length, List.getElem?_concat_length⟩
    obtain ⟨e, hact, hsame, hheard, hk, hi⟩ := hact
    obtain ⟨actions, d, refusal, hrun, hserved, halone, hlast⟩ :=
      run_alone attended hk rfl hi (hsame ▸ hw)
    -- what a submission does alone is what the pipeline does at once
    rw [hsame, Submission.submission_alone line hw, ← hstation, Prod.mk.injEq] at halone
    obtain ⟨hreturned, hafter⟩ := halone
    have hperform := Client.perform_through (c := Client.recording (Pipeline.asSink wrapped)) rfl
      hline w
    refine ⟨actions, d, _, .ok (), refusal.toList.map Refusal.fault, (w.sink.trySubmit line).2,
      by rw [run_cons, hact]; exact hrun, hserved, rfl, ?_, hafter.symm, ?_⟩
    · rw [hperform, Pipeline.trySubmit]
      cases hsubmit : w.sink.station.submit line with | mk result station
      rw [hsubmit] at hreturned
      cases result with
      | ok _ => cases hreturned; rfl
      | error why => cases hreturned; rfl
    · rw [hlast, hheard, List.map_map]
      rfl

end Clientele

/-! ### The sums -/

/-- A list is made of the members with the given numbers and of the others. -/
theorem perm_numbered {α : Type} {as : List α} {ns : List Nat} (hnodup : ns.Nodup)
    (hlt : ∀ n ∈ ns, n < as.length) :
    as.Perm (ns.filterMap (as[·]?) ++
      ((List.range as.length).filter (· ∉ ns)).filterMap (as[·]?)) := by
  -- all places in turn give the list
  have hall : (List.range as.length).filterMap (as[·]?) = as := by
    have hmap : (List.range as.length).map (as[·]?) = as.map some :=
      List.ext_getElem (by simp) (by simp)
    calc (List.range as.length).filterMap (as[·]?)
        = ((List.range as.length).map (as[·]?)).filterMap id := by rw [List.filterMap_map]; rfl
      _ = as := by rw [hmap, List.filterMap_map]; simp
  -- the places with one of the numbers are the numbers, in another order
  have hown : ((List.range as.length).filter (· ∈ ns)).Perm ns := by
    rw [List.perm_ext_iff_of_nodup (List.nodup_range.filter _) hnodup]
    intro n
    rw [List.mem_filter, List.mem_range, decide_eq_true_eq]
    exact ⟨fun h => h.2, fun h => ⟨hlt n h, h⟩⟩
  have hsplit := List.filter_append_perm (fun n => decide (n ∈ ns)) (List.range as.length)
  have hparts := (hsplit.symm.trans (hown.append_right _)).filterMap (as[·]?)
  rw [hall, List.filterMap_append] at hparts
  simpa using hparts

namespace Caller

/-- A submission that has returned was counted on one side, and is in nobody's way. -/
theorem settled_of_returned {call : Caller}
    (h : call.isSubmission = true → call.isAccepted = true ∨ call.isTurnedAway = true) :
    call.holdsLock = false ∧
      call.isSubmission.toNat = call.isAccepted.toNat + call.isTurnedAway.toNat := by
  cases call with
  | stop c | stats c => exact ⟨rfl, rfl⟩
  | submission c =>
    cases c with
    | returned line refusal => cases refusal <;> exact ⟨rfl, rfl⟩
    | _ => exact absurd (h rfl) nofun

end Caller

/-- Has the client returned with success? -/
def Errand.isServed (errand : Errand) : Bool := errand.progress.answer? = some (.ok ())

namespace Clientele

variable {attended : Nat → Bool} {c d : Clientele}

/-- The calls that were not made by a client. -/
def direct (c : Clientele) : List Caller :=
  ((List.range c.system.callers.length).filter (· ∉ c.numbers)).filterMap (c.system.callers[·]?)

/-- No client and no submission is in progress. -/
structure Quiet (c : Clientele) : Prop where
  errands : ∀ errand ∈ c.errands, errand.progress.answer?.isSome = true
  calls : ∀ call ∈ c.system.callers, call.isSubmission = true →
    call.isAccepted = true ∨ call.isTurnedAway = true

/-- The errands of clients without a handler whose lines were turned away. -/
def unheard (attended : Nat → Bool) (c : Clientele) : Nat :=
  c.errands.countP fun errand =>
    !attended errand.client && (errand.call? c.system).any Caller.isTurnedAway

/-- Each call was made on one errand, or by no client. -/
theorem Accounts.countP_callers (hI : c.Accounts attended) (p : Caller → Bool) :
    c.system.callers.countP p =
      c.errands.countP (fun errand => (errand.call? c.system).any p) + c.direct.countP p := by
  -- every number of an errand is one of a call
  have hlt : ∀ n ∈ c.numbers, n < c.system.callers.length := by
    intro n hn
    obtain ⟨errand, hmem, hnumber⟩ := List.mem_filterMap.mp hn
    exact (hI.errands errand hmem).lt hnumber
  have hany : (fun errand : Errand => (errand.call? c.system).any p) =
      fun errand => ((errand.call? c.system).map p).getD false := by
    funext errand
    cases errand.call? c.system <;> rfl
  calc c.system.callers.countP p
      = (c.numbers.filterMap (c.system.callers[·]?) ++ c.direct).countP p :=
        (perm_numbered hI.nodup hlt).countP_eq p
    _ = (c.errands.filterMap (Errand.call? c.system)).countP p + c.direct.countP p := by
        rw [List.countP_append, numbers, List.filterMap_filterMap]
        rfl
    _ = _ := by rw [List.countP_filterMap, hany]

/-- Where a client has returned, so has the submission that it made, if it made one. -/
theorem Accounts.cases_of_quiet (hI : c.Accounts attended) (hquiet : c.Quiet) {errand : Errand}
    (hmem : errand ∈ c.errands) :
    (errand.isServed = false ∧ errand.call? c.system = none ∧
      errand.report? attended c.system = none) ∨
    ∃ line refusal, errand.isServed = true ∧
      errand.call? c.system = some (.submission (.returned line refusal)) ∧
      errand.report? attended c.system = if attended errand.client
        then refusal.map fun why => (errand.client, why.fault) else none := by
  have hreturned := hquiet.errands errand hmem
  have haccounted := hI.errands errand hmem
  unfold Errand.Accounted at haccounted
  unfold Errand.isServed Errand.call? Errand.number? Errand.report?
  -- a client that has returned was rejected or served
  cases hp : errand.progress with
  | rejected fault => exact Or.inl ⟨rfl, rfl, rfl⟩
  | served number =>
    rw [hp] at haccounted
    obtain ⟨line, refusal, hi, -⟩ := haccounted
    refine Or.inr ⟨line, refusal, rfl, hi, ?_⟩
    simp only [hi]
    cases refusal <;> rfl
  | submitting number | reporting number fault =>
    rw [hp] at hreturned
    cases hreturned

/-- **When nobody is in the middle of a call the sums agree.** -/
theorem Accounts.sums (hI : c.Accounts attended) (hbooks : c.system.Books) (hquiet : c.Quiet) :
    c.errands.countP Errand.isServed + c.direct.countP Caller.isSubmission =
      c.system.station.submitted + c.system.station.dropped ∧
    c.heard.length + c.direct.countP Caller.isTurnedAway + c.unheard attended =
      c.system.station.dropped := by
  have hsettled := fun call hmem => Caller.settled_of_returned (hquiet.calls call hmem)
  obtain ⟨hsubmitted, hdropped, -⟩ := hbooks.idle fun call hmem => (hsettled call hmem).1
  constructor
  · -- every submission has returned, with its line accepted or turned away
    have hall : c.system.callers.countP Caller.isSubmission =
        c.system.callers.countP Caller.isAccepted +
          c.system.callers.countP Caller.isTurnedAway :=
      countP_eq_add fun call hmem => (hsettled call hmem).2
    have hserved : c.errands.countP (fun errand =>
        (errand.call? c.system).any Caller.isSubmission) = c.errands.countP Errand.isServed := by
      refine List.countP_congr fun errand hmem => ?_
      obtain ⟨hserved, hcall, -⟩ | ⟨_, _, hserved, hcall, -⟩ := hI.cases_of_quiet hquiet hmem
      · rw [hserved, hcall]
        rfl
      · rw [hserved, hcall]
        rfl
    rw [← hserved, ← hI.countP_callers, hall, hsubmitted, hdropped]
  · -- a line of a client that was turned away was reported if there was somebody to report it to
    have hturned : c.errands.countP (fun errand =>
        (errand.call? c.system).any Caller.isTurnedAway) =
        c.errands.countP (fun errand => (errand.report? attended c.system).isSome) +
          c.unheard attended := by
      refine countP_eq_add fun errand hmem => ?_
      obtain ⟨-, hcall, hreport⟩ | ⟨_, refusal, -, hcall, hreport⟩ :=
        hI.cases_of_quiet hquiet hmem
      · rw [hcall, hreport]
        cases attended errand.client <;> rfl
      · rw [hcall, hreport]
        cases attended errand.client <;> cases refusal <;> rfl
    have hheard : c.heard.length =
        c.errands.countP fun errand => (errand.report? attended c.system).isSome := by
      rw [hI.heard.length_eq, List.length_filterMap_eq_countP]
    have hparts := hI.countP_callers Caller.isTurnedAway
    rw [hdropped]
    omega

/-- A line for which a client has returned with success was accepted, and is in the order of the
accepted lines, or it was turned away, and its client was told if it can be. -/
theorem Accounts.served (hI : c.Accounts attended) (hbooks : c.system.Books) {errand : Errand}
    (hmem : errand ∈ c.errands) {number : Nat} (hp : errand.progress = .served number) :
    ∃ line, errand.request.line errand.now = .ok line ∧
      ((number ∈ c.system.admitted ∧ c.system.lineOf number = some line ∧
          errand.report? attended c.system = none) ∨
        ∃ why, number ∉ c.system.admitted ∧
          c.system.callers[number]? = some (.submission (.returned line (some why))) ∧
          errand.report? attended c.system =
            if attended errand.client then some (errand.client, why.fault) else none) := by
  have haccounted := hI.errands errand hmem
  unfold Errand.Accounted at haccounted
  rw [hp] at haccounted
  obtain ⟨line, refusal, hi, hline⟩ := haccounted
  -- whether the line is in the order is read off the call, which has returned
  have hlineOf : c.system.lineOf number = (Submission.returned line refusal).admitted? := by
    rw [System.lineOf, hi]
    rfl
  refine ⟨line, hline, ?_⟩
  rw [hbooks.mem_admitted, hlineOf, Errand.report?, hp]
  simp only [hi]
  cases refusal with
  | none =>
    refine Or.inl ⟨rfl, rfl, ?_⟩
    cases attended errand.client <;> rfl
  | some why => exact Or.inr ⟨why, Bool.false_ne_true, rfl, rfl⟩

variable {threadName : String} {capacity : Nat}

/-- **Clients that share a pipeline account for every line.** Whatever else is in progress, a
request to a client fails with the one kind of fault and without effect, or it returns with success
and its line is accepted, or turned away with the fault for the handler (`Client.Settles`). Over all
runs of clients, direct submissions, the worker and those who stop it, each handler was given the
faults with which the lines of its client were turned away, each once; a line is turned away for no
other reason than the two, and a client that sent a line comes to its end. When nobody is in the
middle of a call, the errands that returned with success and the direct submissions are together
what was submitted and dropped, and what the handlers were given, the direct submissions that were
turned away and the lines of which no handler was told are what was dropped; so they are in the
reported words. -/
theorem accounts_for_every_line (h : Reachable attended threadName capacity c) :
    (∀ (σ η : Type) (wrapped : Sink σ) (client : Client (Pipeline σ) η)
      (w : World (Pipeline σ) η), client.sink = Pipeline.asSink wrapped →
      w.sink.station = c.system.station →
      ∀ now request, client.Settles capacity now request w) ∧
    (c.Accounts attended ∧ c.system.Books) ∧
    (∀ errand ∈ c.errands, ∀ fault, errand.progress = .rejected fault →
      fault.kind = .invalidObservation ∧ errand.call? c.system = none ∧
        errand.report? attended c.system = none) ∧
    (∀ errand ∈ c.errands, ∀ number, errand.progress = .served number →
      ∃ line, errand.request.line errand.now = .ok line ∧
        ((number ∈ c.system.admitted ∧ c.system.lineOf number = some line ∧
            errand.report? attended c.system = none) ∨
          ∃ why, number ∉ c.system.admitted ∧
            c.system.callers[number]? = some (.submission (.returned line (some why))) ∧
            errand.report? attended c.system =
              if attended errand.client then some (errand.client, why.fault) else none)) ∧
    (∀ i line why t, c.system.act (.caller i) = some t →
      t.callers[i]? = some (.submission (.refusing line why)) →
      why = .stopped ∧ c.system.station.stopping = true ∨
        why = .full ∧ c.system.station.waiting.length = capacity) ∧
    (∀ (k : Nat) (errand : Errand), c.errands[k]? = some errand →
      errand.number?.isSome = true →
      ∃ actions d number, c.run attended actions = some d ∧
        d.errands[k]? = some { errand with progress := .served number }) ∧
    (c.Quiet →
      (c.errands.countP Errand.isServed + c.direct.countP Caller.isSubmission =
          c.system.station.submitted + c.system.station.dropped ∧
        c.heard.length + c.direct.countP Caller.isTurnedAway + c.unheard attended =
          c.system.station.dropped) ∧
      UInt64.ofNat (c.errands.countP Errand.isServed + c.direct.countP Caller.isSubmission) =
        c.system.station.stats.submitted + c.system.station.stats.dropped ∧
      UInt64.ofNat
          (c.heard.length + c.direct.countP Caller.isTurnedAway + c.unheard attended) =
        c.system.station.stats.dropped) := by
  obtain ⟨hsystem, haccounts⟩ := h.accounts
  have hbooks := hsystem.books
  refine ⟨fun σ η wrapped client w hsink hstation now request =>
    hsystem.settles hsink hstation now request, ⟨haccounts, hbooks⟩, ?_,
    fun errand hmem number hp => haccounts.served hbooks hmem hp,
    fun i line why t => hsystem.refused_because, fun k errand hk => h.returns hk, ?_⟩
  · intro errand hmem fault hp
    -- a rejected errand had no line, and so no submission and no report
    have haccounted := haccounts.errands errand hmem
    unfold Errand.Accounted at haccounted
    rw [hp] at haccounted
    refine ⟨Request.kind_of_line_eq_error haccounted, ?_, ?_⟩
    · rw [Errand.call?, Errand.number?, hp]
      rfl
    · rw [Errand.report?, hp]
  · intro hquiet
    obtain ⟨hserved, hheard⟩ := haccounts.sums hbooks hquiet
    refine ⟨⟨hserved, hheard⟩, ?_, ?_⟩
    · -- words wrap around, and so do the sums of what they stand for
      rw [hserved, UInt64.ofNat_add]
      rfl
    · rw [hheard]
      rfl

/-- A client goes on an errand, its submission makes so many accesses, and the client makes the two
steps to report that the line was turned away. -/
def inVain (client number accesses errand : Nat) : List Action :=
  .request client ⟨0⟩ (.increment "hits") ::
    List.replicate accesses (.access (.caller number)) ++ List.replicate 2 (.client errand)

/-- Into a queue for one line the first client sends two lines, one of which is accepted, and then
an observation without a key; the second client, which has no handler, and a direct submission find
the queue full. The worker delivers the line, another direct submission is accepted, and the station
is asked to stop. The last line of the first client comes too late. -/
def crowdedQueue : List Action :=
  .request 0 ⟨0⟩ (.increment "hits") :: List.replicate 5 (.access (.caller 0)) ++ [.client 0] ++
  inVain 0 1 5 1 ++ [.request 0 ⟨0⟩ (.increment "")] ++ inVain 1 2 5 3 ++
  .access (.arrive (.submission (.arriving ⟨"direct:1|c"⟩))) ::
    List.replicate 5 (.access (.caller 3)) ++
  [.access (.worker (.enter true)), .access (.worker .proceed), .access (.worker .receiveLine)] ++
  .access (.arrive (.submission (.arriving ⟨"direct:2|c"⟩))) ::
    List.replicate 5 (.access (.caller 4)) ++
  [.access (.arrive (.stop (.raising false))), .access (.caller 5), .access (.caller 5)] ++
  inVain 0 6 4 4

/-- Of a crowded queue two lines were submitted and four dropped: the handler of the first client
was told of two of them, a direct submission of one, and of one nobody. -/
theorem crowdedQueue_accounted :
    ∃ c, (new "courier" 1).run (· = 0) crowdedQueue = some c ∧ c.Quiet ∧
      c.heard = [(0, Refusal.full.fault), (0, Refusal.stopped.fault)] ∧
      c.errands.countP Errand.isServed = 4 ∧ c.direct.countP Caller.isSubmission = 2 ∧
      c.system.station.submitted = 2 ∧
      c.errands.countP Errand.isServed + c.direct.countP Caller.isSubmission =
        c.system.station.submitted + c.system.station.dropped ∧
      c.heard.length + c.direct.countP Caller.isTurnedAway + c.unheard (· = 0) =
        c.system.station.dropped := by
  have hrun : ((new "courier" 1).run (· = 0) crowdedQueue).any (fun c =>
      c.errands.all (·.progress.answer?.isSome) &&
      c.system.callers.all
        (fun call => !call.isSubmission || (call.isAccepted || call.isTurnedAway)) &&
      c.heard == [(0, Refusal.full.fault), (0, Refusal.stopped.fault)] &&
      c.errands.countP Errand.isServed == 4 && c.direct.countP Caller.isSubmission == 2 &&
      c.system.station.submitted == 2) = true := by decide +kernel
  obtain ⟨c, hc, hall⟩ := exists_of_any hrun
  simp only [Bool.and_eq_true, beq_iff_eq, List.all_eq_true, Bool.or_eq_true,
    Bool.not_eq_eq_eq_not, Bool.not_true] at hall
  obtain ⟨⟨⟨⟨⟨herrands, hcalls⟩, hheard⟩, hserved⟩, hdirect⟩, hsubmitted⟩ := hall
  -- what was checked along the list of calls is that nobody is in the middle of one
  have hquiet : c.Quiet := by
    refine ⟨herrands, fun call hmem hsubmission => ?_⟩
    obtain hnot | hreturned := hcalls call hmem
    · rw [hsubmission] at hnot
      cases hnot
    · exact hreturned
  obtain ⟨-, -, -, -, -, -, hsums⟩ := accounts_for_every_line ⟨crowdedQueue, hc⟩
  obtain ⟨⟨hall, hdropped⟩, -⟩ := hsums hquiet
  exact ⟨c, hc, hquiet, hheard, hserved, hdirect, hsubmitted, hall, hdropped⟩

end Clientele

end MetricCourier
