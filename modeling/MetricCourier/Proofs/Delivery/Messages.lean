import MetricCourier.Proofs.Delivery.Books

/-!
# The two messages

Each of the two channels by which a worker is stopped carries one message in its life. The stop
message is sent by the call that was the first to raise the stop flag, and by no other; the message
that the worker is done is sent by the worker between setting the flag and leaving.
`System.Messages` says so by counting: of stop messages that were sent and calls about to send one
there are together as many as the flag says, one or none (`stops`), and of messages that the worker
is done there are as many as its phase says (`dones`). No channel has more messages waiting than
were sent on it, so neither is ever full when something is sent (`trySend_stop`, `trySend_done`).

A worker that waits has not taken a stop message, since the worker that takes it does not wait
again: whatever was sent still waits with it (`stops_wait`).
-/

namespace MetricCourier

/-- A channel for one message whose receiver stays. -/
structure Channel.Single (c : Channel Unit) : Prop where
  limit : c.limit = some 1
  connected : c.connected = true

namespace Channel.Single

variable {c d : Channel Unit}

theorem of_trySend (hI : c.Single) (h : c.trySend () = .ok d) : d.Single := by
  obtain ⟨hlimit, hconnected⟩ := frame_of_trySend h
  exact ⟨hlimit.trans hI.limit, hconnected.trans hI.connected⟩

theorem of_tryReceive (hI : c.Single) (h : c.tryReceive = some ((), d)) : d.Single := by
  obtain ⟨hlimit, hconnected⟩ := frame_of_tryReceive h
  exact ⟨hlimit.trans hI.limit, hconnected.trans hI.connected⟩

/-- Where no message waits there is room for one. -/
theorem trySend_ok (hI : c.Single) (hempty : c.waiting.toList.length = 0) :
    ∃ d, c.trySend () = .ok d := by
  cases h : c.trySend () with
  | ok d => exact ⟨d, rfl⟩
  | error why =>
    -- the channel would have to be full with no message in it
    obtain ⟨-, hfull⟩ := (trySend_eq_error_iff hI.connected).mp h
    rw [isFull, hI.limit, Queue.size_eq_length, hempty] at hfull
    exact absurd hfull (by decide)

end Channel.Single

/-- Has the worker sent the message that it is done? -/
def Phase.isSignalled : Phase → Bool
  | leaving | finished => true
  | _ => false

/-- Was this call the first to raise the stop flag, and is it about to send the stop message? -/
def Caller.isSending : Caller → Bool
  | stop (.sending _) => true
  | _ => false

namespace Station

/-- How many stop messages were sent. -/
def stopsSent (s : Station) : Nat := s.journal.count .stopSent

/-- How many messages were sent that the worker is done. -/
def donesSent (s : Station) : Nat := s.journal.count .doneSent

/-- How many stop messages wait. -/
def stopsWaiting (s : Station) : Nat := s.stopMessage.waiting.toList.length

/-- How many messages wait that the worker is done. -/
def donesWaiting (s : Station) : Nat := s.doneMessage.waiting.toList.length

variable {s t : Station} {m : Move}

theorem Access.stopsSent_eq (h : Access m s t) : t.stopsSent = s.stopsSent := by
  cases h <;> simp [stopsSent, note, log]

/-- The worker takes a stop message at most. -/
theorem stopsWaiting_le_of_access (hI : s.stopsWaiting ≤ s.stopsSent) (h : Access m s t) :
    t.stopsWaiting ≤ t.stopsSent := by
  rw [h.stopsSent_eq]
  cases h with
  | receiveStop hp hm =>
    -- one less waits, and none less was sent
    rw [stopsWaiting, Channel.toList_of_tryReceive hm, List.length_cons] at hI
    exact Nat.le_of_succ_le hI
  | _ => exact hI

/-- A worker that begins to wait has found the stop flag down, and then no stop message was sent. -/
theorem stops_wait_of_access (hle : s.stopsWaiting ≤ s.stopsSent)
    (hstops : s.stopsSent ≤ s.stopping.toNat) (h : Access m s t) (hp : t.phase = .waiting) :
    t.stopsWaiting = t.stopsSent := by
  rw [h.stopsSent_eq]
  cases h with
  | findNoStop _ hs =>
    -- the flag is down, so nothing was sent, and nothing can wait
    rw [hs, Bool.toNat_false] at hstops
    change s.stopsWaiting = s.stopsSent
    omega
  | @endWritten _ loop _ _ _ | @report _ loop _ _ _ => cases loop <;> cases hp
  | _ => cases hp

/-- The worker says once that it is done, where there is room for its message. -/
theorem dones_of_access (hI : s.donesSent = s.phase.isSignalled.toNat)
    (hroom : s.phase = .signalling → ∃ doneMessage, s.doneMessage.trySend () = .ok doneMessage)
    (h : Access m s t) : t.donesSent = t.phase.isSignalled.toNat := by
  unfold donesSent at *
  cases h with
  | signalInVain hp hm =>
    -- this access is in the program, but never comes: there is room
    obtain ⟨doneMessage, hok⟩ := hroom hp
    rw [hok] at hm
    cases hm
  | @endWritten _ loop _ _ hp | @report _ loop _ _ hp =>
    cases loop <;> simpa [hp, note, log, Phase.isSignalled, Loop.next] using hI
  | _ => simp [note, log, Phase.isSignalled, *]

/-- The worker's message waits once it was sent. -/
theorem donesWaiting_le_of_access (hI : s.donesWaiting ≤ s.donesSent) (h : Access m s t) :
    t.donesWaiting ≤ t.donesSent := by
  unfold donesSent donesWaiting at *
  cases h with
  | signal hp hm =>
    -- the message that is sent is also the one that waits now
    have hlast := Channel.toList_of_trySend hm
    simpa [note, hlast] using hI
  | _ => simpa [note, log] using hI

theorem single_of_access (hstop : s.stopMessage.Single) (hdone : s.doneMessage.Single)
    (h : Access m s t) : t.stopMessage.Single ∧ t.doneMessage.Single := by
  cases h with
  | receiveStop _ hm => exact ⟨hstop.of_tryReceive hm, hdone⟩
  | signal _ hm => exact ⟨hstop, hdone.of_trySend hm⟩
  | _ => exact ⟨hstop, hdone⟩

theorem sent_of_submission {c d : Submission} (h : Submission.Access s c t d) :
    t.stopsSent = s.stopsSent ∧ t.donesSent = s.donesSent := by
  cases h <;> simp [stopsSent, donesSent, note, countAccepted, countRefused]

theorem sendStop_eq {stopMessage : Channel Unit} (h : s.stopMessage.trySend () = .ok stopMessage) :
    s.sendStop = { s with stopMessage }.note .stopSent := by
  rw [sendStop, h]

end Station

namespace StopCall.Access

variable {s t : Station} {c d : StopCall}

theorem isSending_asked (waits : Bool) : (Caller.stop (asked waits)).isSending = false := by
  cases waits <;> rfl

/-- The first call to raise the stop flag is about to send the message, until it has. -/
theorem stops_add (h : Access s c t d) (hroom : (Caller.stop c).isSending = true →
      ∃ stopMessage, s.stopMessage.trySend () = .ok stopMessage) :
    t.stopsSent + (Caller.stop d).isSending.toNat + s.stopping.toNat =
      s.stopsSent + (Caller.stop c).isSending.toNat + t.stopping.toNat := by
  cases h with
  -- the flag goes up and the call is about to send: one more on either side
  | raise hs => simp [Station.raiseStop, Station.stopsSent, Caller.isSending, hs]
  | raiseAgain hs =>
    rw [isSending_asked]
    simp [Station.raiseStop, Station.stopsSent, Caller.isSending, hs]
  | send =>
    -- the message is sent, and the call is no longer about to send it
    obtain ⟨stopMessage, hm⟩ := hroom rfl
    rw [isSending_asked, Station.sendStop_eq hm]
    simp [Station.stopsSent, Station.note, Caller.isSending]
  | _ => rfl

/-- A stop message that is sent waits. -/
theorem stops_sent (h : Access s c t d) (hroom : (Caller.stop c).isSending = true →
      ∃ stopMessage, s.stopMessage.trySend () = .ok stopMessage) :
    ∃ n, t.stopsSent = s.stopsSent + n ∧ t.stopsWaiting = s.stopsWaiting + n := by
  cases h with
  | send =>
    obtain ⟨stopMessage, hm⟩ := hroom rfl
    have hlast := Channel.toList_of_trySend hm
    rw [Station.sendStop_eq hm]
    -- there is room, so what is sent does arrive
    refine ⟨1, ?_, ?_⟩
    · simp [Station.stopsSent, Station.note]
    · simp [Station.stopsWaiting, Station.note, hlast]
  | _ => exact ⟨0, rfl, rfl⟩

/-- A call to stop the worker may take the message that the worker is done, and sends none. -/
theorem dones_received (h : Access s c t d) :
    t.donesSent = s.donesSent ∧ t.donesWaiting ≤ s.donesWaiting := by
  cases h with
  | send =>
    -- what it sends is the other message
    unfold Station.sendStop
    split
    · exact ⟨by simp [Station.donesSent, Station.note], Nat.le_refl _⟩
    · exact ⟨rfl, Nat.le_refl _⟩
  | receive hm =>
    refine ⟨rfl, ?_⟩
    -- one message less waits, so there are no more than before
    have hfirst := Channel.toList_of_tryReceive hm
    rw [Station.donesWaiting, Station.donesWaiting, hfirst, List.length_cons]
    exact Nat.le_succ _
  | _ => exact ⟨rfl, Nat.le_refl _⟩

/-- A call to stop the worker leaves the channels of the messages as they are. -/
theorem single (h : Access s c t d) (hstop : s.stopMessage.Single) (hdone : s.doneMessage.Single) :
    t.stopMessage.Single ∧ t.doneMessage.Single := by
  cases h with
  | send =>
    unfold Station.sendStop
    split
    · next hm => exact ⟨hstop.of_trySend hm, hdone⟩
    · exact ⟨hstop, hdone⟩
  | receive hm => exact ⟨hstop, hdone.of_tryReceive hm⟩
  | _ => exact ⟨hstop, hdone⟩

end StopCall.Access

theorem Caller.isSending_of_isNew {call : Caller} (h : call.isNew = true) :
    call.isSending = false := by
  cases call with
  | submission c => rfl
  | stats c => rfl
  | stop c =>
    -- a call starts with raising the flag, before there is anything to send
    cases c with
    | sending waits => cases h
    | _ => rfl

namespace System

/-- How the messages stand. -/
structure Messages (s : System) : Prop where
  /-- Whoever raised the stop flag has sent the stop message or is about to. -/
  stops : s.station.stopsSent + s.callers.countP Caller.isSending = s.station.stopping.toNat
  stopsWaiting_le : s.station.stopsWaiting ≤ s.station.stopsSent
  /-- A worker that waits has not taken a stop message. -/
  stops_wait : s.station.phase = .waiting → s.station.stopsWaiting = s.station.stopsSent
  /-- The worker says once that it is done. -/
  dones : s.station.donesSent = s.station.phase.isSignalled.toNat
  donesWaiting_le : s.station.donesWaiting ≤ s.station.donesSent
  stopChannel : s.station.stopMessage.Single
  doneChannel : s.station.doneMessage.Single

variable {s t : System}

theorem Messages.new (threadName : String) (capacity : Nat) :
    (System.new threadName capacity).Messages where
  stops := rfl
  stopsWaiting_le := Nat.le_refl _
  stops_wait _ := rfl
  dones := rfl
  donesWaiting_le := Nat.le_refl _
  stopChannel := ⟨rfl, rfl⟩
  doneChannel := ⟨rfl, rfl⟩

/-- There is at most one stop message, sent or about to be. -/
theorem Messages.stops_le (hI : s.Messages) :
    s.station.stopsSent + s.callers.countP Caller.isSending ≤ 1 :=
  hI.stops ▸ Bool.toNat_le s.station.stopping

/-- A call that is about to send the stop message finds the stop flag raised and room for its
message. -/
theorem Messages.trySend_stop (hI : s.Messages) {call : Caller} (hmem : call ∈ s.callers)
    (hsending : call.isSending = true) :
    s.station.stopping = true ∧
      ∃ stopMessage, s.station.stopMessage.trySend () = .ok stopMessage := by
  have hpos : 0 < s.callers.countP Caller.isSending :=
    List.countP_pos_iff.mpr ⟨call, hmem, hsending⟩
  have hle := hI.stops_le
  have hstops := hI.stops
  have hwaiting := hI.stopsWaiting_le
  constructor
  · -- with the flag down no call would be about to send
    cases hs : s.station.stopping with
    | true => rfl
    | false =>
      rw [hs, Bool.toNat_false] at hstops
      omega
  · -- the call that is about to send is the only one, so nothing was sent before it
    have hnone : s.station.stopsWaiting = 0 := by omega
    exact hI.stopChannel.trySend_ok hnone

/-- A worker that is about to say that it is done finds room for its message. -/
theorem Messages.trySend_done (hI : s.Messages) (hp : s.station.phase = .signalling) :
    ∃ doneMessage, s.station.doneMessage.trySend () = .ok doneMessage := by
  have hdones := hI.dones
  have hwaiting := hI.donesWaiting_le
  rw [hp] at hdones
  -- in this phase the message has not been sent yet
  have hnone : s.station.donesWaiting = 0 := by
    change s.station.donesSent = 0 at hdones
    omega
  exact hI.doneChannel.trySend_ok hnone

/-- What the worker does with the messages. -/
theorem Messages.worker (hI : s.Messages) {m : Station.Move} {station : Station}
    (h : Station.Access m s.station station) : Messages { s with station } := by
  have hsent : s.station.stopsSent ≤ s.station.stopping.toNat := hI.stops ▸ Nat.le_add_right _ _
  obtain ⟨hstop, hdone⟩ := Station.single_of_access hI.stopChannel hI.doneChannel h
  exact {
    stops := by rw [h.stopsSent_eq, h.stopping_eq, hI.stops]
    stopsWaiting_le := Station.stopsWaiting_le_of_access hI.stopsWaiting_le h
    stops_wait := Station.stops_wait_of_access hI.stopsWaiting_le hsent h
    dones := Station.dones_of_access hI.dones hI.trySend_done h
    donesWaiting_le := Station.donesWaiting_le_of_access hI.donesWaiting_le h
    stopChannel := hstop
    doneChannel := hdone }

/-- Calls that are replaced by calls of the same kind do not show in the messages. -/
theorem Messages.congr (hI : s.Messages) (hstops : t.station.stopsSent = s.station.stopsSent)
    (hdones : t.station.donesSent = s.station.donesSent)
    (hstopping : t.station.stopping = s.station.stopping)
    (hphase : t.station.phase = s.station.phase)
    (hstop : t.station.stopMessage = s.station.stopMessage)
    (hdone : t.station.doneMessage = s.station.doneMessage)
    (hcount : t.callers.countP Caller.isSending = s.callers.countP Caller.isSending) :
    t.Messages where
  -- each clause is about the counts, the flag, the phase and the channels alone
  stops := by rw [hstops, hcount, hI.stops, hstopping]
  stopsWaiting_le := by rw [Station.stopsWaiting, hstop, hstops]; exact hI.stopsWaiting_le
  stops_wait hp := by
    rw [Station.stopsWaiting, hstop, hstops]
    exact hI.stops_wait (hphase ▸ hp)
  dones := by rw [hdones, hI.dones, hphase]
  donesWaiting_le := by rw [Station.donesWaiting, hdone, hdones]; exact hI.donesWaiting_le
  stopChannel := hstop ▸ hI.stopChannel
  doneChannel := hdone ▸ hI.doneChannel

/-- What a call to stop the worker does with the messages: the first to raise the flag is the one
to send. -/
theorem Messages.stop (hI : s.Messages) {i : Nat} {c d : StopCall} {station : Station}
    (hi : s.callers[i]? = some (.stop c)) (h : StopCall.Access s.station c station d) :
    Messages { s with station, callers := s.callers.set i (.stop d) } := by
  have hroom : (Caller.stop c).isSending = true →
      ∃ stopMessage, s.station.stopMessage.trySend () = .ok stopMessage :=
    fun hsending => (hI.trySend_stop (List.mem_of_getElem? hi) hsending).2
  obtain ⟨n, hsent, hwaiting⟩ := h.stops_sent hroom
  obtain ⟨hdonesSent, hdonesWaiting⟩ := h.dones_received
  obtain ⟨hstop, hdone⟩ := h.single hI.stopChannel hI.doneChannel
  obtain ⟨-, -, -, -, -, -, -, hphase⟩ := h.frame
  -- what the call sends, and what it is about to send, is added to both sides of each clause
  refine ⟨?_, ?_, ?_, ?_, ?_, hstop, hdone⟩
  · have hadd := h.stops_add hroom
    have hset := countP_set_add (b := Caller.stop d) Caller.isSending hi
    have hbefore := hI.stops
    change station.stopsSent + (s.callers.set i (.stop d)).countP Caller.isSending =
      station.stopping.toNat
    omega
  · have hbefore := hI.stopsWaiting_le
    change station.stopsWaiting ≤ station.stopsSent
    omega
  · intro hp
    have hbefore := hI.stops_wait (hphase ▸ hp)
    change station.stopsWaiting = station.stopsSent
    omega
  · change station.donesSent = station.phase.isSignalled.toNat
    rw [hdonesSent, hI.dones, hphase]
  · have hbefore := hI.donesWaiting_le
    change station.donesWaiting ≤ station.donesSent
    omega

/-- **The messages stand as they should after every access.** -/
theorem Messages.access {action : Action} (hI : s.Messages) (h : Access action s t) :
    t.Messages := by
  cases h with
  | worker h => exact hI.worker h
  | arrive hnew =>
    refine hI.congr rfl rfl rfl rfl rfl rfl ?_
    -- the one call more is not about to send
    rw [List.countP_append, List.countP_singleton, Caller.isSending_of_isNew hnew]
    rfl
  | submission hi h =>
    obtain ⟨hstopping, -, -, -, hphase, hstop, hdone⟩ := h.frame
    obtain ⟨hstops, hdones⟩ := Station.sent_of_submission h
    -- a submission leaves flag and messages alone, and is never about to send
    exact hI.congr hstops hdones hstopping hphase hstop hdone (countP_set_add Caller.isSending hi)
  | stop hi h => exact hI.stop hi h
  | stats hi _ =>
    exact hI.congr rfl rfl rfl rfl rfl rfl (countP_set_add Caller.isSending hi)
  | timeOut hi =>
    exact hI.congr rfl rfl rfl rfl rfl rfl (countP_set_add Caller.isSending hi)

/-- **The messages stand as they should in every reachable system.** -/
theorem Reachable.messages {threadName : String} {capacity : Nat}
    (h : Reachable threadName capacity s) : s.Messages :=
  h.induction (Messages.new threadName capacity) fun _ _ _ hI hact =>
    hI.access (access_of_act hact)

end System

end MetricCourier
