import MetricCourier.Delivery.Pipeline

/-!
# The worker comes to rest

Whatever the sink and the context answer, each access of a worker makes the rank of its station
smaller (`rank_of_move`). A line that is taken costs the queue sixteen and gives the phase at most
sixteen; every other access leads to a lighter phase, also the one that replaces a worker that
unwound. So a worker that nobody disturbs comes to a point where it can only wait, and
`Pipeline.settle` gets there (`next?_settle`).
-/

namespace MetricCourier

namespace Station

variable {s t : Station}

/-- Taking a line leaves one line less and a worker that has taken it. -/
theorem takeLine_eq_some {loop : Loop} (h : s.takeLine loop = some t) :
    s.lines.waiting.size = t.lines.waiting.size + 1 ∧ ∃ line, t.phase = .taken loop line := by
  simp only [takeLine, Channel.tryReceive, Option.map_map, Option.map_eq_some_iff] at h
  obtain ⟨⟨line, rest⟩, hpop, rfl⟩ := h
  exact ⟨Queue.size_of_pop? hpop, line, rfl⟩

theorem takeStop_eq_some (h : s.takeStop = some t) :
    t.lines = s.lines ∧ t.phase = .closing := by
  simp only [takeStop, Option.map_eq_some_iff] at h
  obtain ⟨_, _, rfl⟩ := h
  exact ⟨rfl, rfl⟩

theorem leaveContext_lines (s : Station) : s.leaveContext.lines = s.lines := by
  unfold leaveContext
  split <;> rfl

/-- A worker is lighter after a line than while it reports on it. -/
theorem weight_next_lt (loop : Loop) : weight loop.next < 11 := by
  cases loop <;> decide

/-- An access that depends on the station alone makes the rank smaller. -/
theorem rank_of_proceed (h : s.proceed = some t) : t.rank < s.rank := by
  unfold proceed at h
  unfold rank
  -- one case for each phase, in the order of `proceed`
  split at h
  case h_1 hp =>
    cases h
    rw [hp]
    cases s.stopping <;> simp [weight]
  case h_2 hp => cases h; simp [hp, weight]
  case h_3 hp => cases h; simp [hp, weight, note]
  case h_4 hp => cases h; simp [hp, weight]
  case h_5 loop _ _ hp =>
    cases h
    have := weight_next_lt loop
    simp only [hp, weight, log, note] at this ⊢
    omega
  case h_6 hp =>
    split at h
    · cases h; simp [hp, weight]
    · cases h
  case h_7 hp => cases h; simp [hp, weight]
  case h_8 hp =>
    cases hq : s.takeLine .draining with
    | none =>
      rw [hq] at h
      cases h
      simp [hp, weight]
    | some r =>
      rw [hq] at h
      cases h
      -- the phase gets heavier, by less than a line in the queue weighs
      obtain ⟨hsize, line, hphase⟩ := takeLine_eq_some hq
      simp only [hp, hphase, weight]
      omega
  case h_9 hp => cases h; simp [hp, weight, log, note]
  case h_10 hp => cases h; simp [hp, weight]
  case h_11 hp => split at h <;> cases h <;> simp [hp, weight, note]
  case h_12 hp => cases h; simp [hp, weight, leaveContext_lines]
  case h_13 hp => cases h; simp [hp, weight, leaveContext_lines]
  case h_14 hp => cases h; simp [hp, weight]
  case h_15 hp => cases h; simp [hp, weight, log, note]
  all_goals cases h

/-- The end of a call of the sink makes the rank smaller, however the call ended. -/
theorem rank_of_finish {call : Call Reply} (h : s.finish call = some t) : t.rank < s.rank := by
  unfold finish at h
  unfold rank
  split at h
  · -- a call that returns leads on in the loop, and one that unwinds to a restart
    next loop line hp =>
    have := weight_next_lt loop
    split at h <;> cases h <;> simp only [hp, weight, note] at this ⊢ <;> omega
  · cases h

/-- Each access of the worker makes the rank smaller. -/
theorem rank_of_move {m : Move} (h : s.move m = some t) : t.rank < s.rank := by
  cases m with
  | enter answer =>
    simp only [move, enter] at h
    split at h
    · next hp => cases h; simp [rank, hp, weight, note]
    · cases h
  | receiveLine =>
    simp only [move, receiveLine] at h
    split at h
    · next hp =>
      obtain ⟨hsize, line, hphase⟩ := takeLine_eq_some h
      simp only [rank, hp, hphase, weight]
      omega
    · cases h
  | receiveStop =>
    simp only [move, receiveStop] at h
    split at h
    · next hp =>
      obtain ⟨hlines, hphase⟩ := takeStop_eq_some h
      simp [rank, hp, hphase, hlines, weight]
    · cases h
  | finish call => exact rank_of_finish h
  | proceed => exact rank_of_proceed h

end Station

namespace Pipeline

variable {σ : Type} {wrapped : Sink σ} {p q : Pipeline σ}

/-- What a worker does next is one access of its station. It ends a call of the sink, which the gate
lets pass, or it leaves the gate alone. -/
theorem next?_cases (h : p.next? wrapped = some q) :
    ∃ m, p.station.move m = some q.station ∧
      ((∀ call, m ≠ .finish call) ∧ q.gate = p.gate ∨ p.gate.pass? = some q.gate) := by
  unfold next? at h
  split at h
  · simp only [Option.map_eq_some_iff] at h
    obtain ⟨t, ht, rfl⟩ := h
    exact ⟨_, ht, .inl ⟨nofun, rfl⟩⟩
  · simp only [Option.map_eq_some_iff] at h
    obtain ⟨t, ht, rfl⟩ := h
    -- of two messages that wait the line is taken
    cases hl : p.station.move .receiveLine with
    | none =>
      rw [hl] at ht
      exact ⟨.receiveStop, ht, .inl ⟨nofun, rfl⟩⟩
    | some r =>
      rw [hl] at ht
      cases ht
      exact ⟨.receiveLine, hl, .inl ⟨nofun, rfl⟩⟩
  · -- the call of the sink ends when the gate lets it
    simp only [Option.bind_eq_some_iff, Option.map_eq_some_iff] at h
    obtain ⟨gate, hgate, t, ht, rfl⟩ := h
    exact ⟨_, ht, .inr hgate⟩
  · simp only [Option.map_eq_some_iff] at h
    obtain ⟨t, ht, rfl⟩ := h
    exact ⟨_, ht, .inl ⟨nofun, rfl⟩⟩

theorem move_of_next? (h : p.next? wrapped = some q) : ∃ m, p.station.move m = some q.station :=
  let ⟨m, hm, _⟩ := next?_cases h
  ⟨m, hm⟩

/-- What a worker does next makes the rank of its station smaller. -/
theorem rank_of_next? (h : p.next? wrapped = some q) : q.station.rank < p.station.rank :=
  let ⟨_, hm⟩ := move_of_next? h
  Station.rank_of_move hm

/-- With fuel for its rank, a worker runs until it can only wait. -/
theorem next?_run {fuel : Nat} (h : p.station.rank ≤ fuel) :
    (p.run wrapped fuel).next? wrapped = none := by
  -- by induction on the fuel, which each access may use one of
  induction fuel generalizing p with
  | zero =>
    cases hq : p.next? wrapped with
    | none => exact hq
    | some q => exact absurd (rank_of_next? hq) (by omega)
  | succ fuel ih =>
    unfold run
    cases hq : p.next? wrapped with
    | none => exact hq
    | some q => exact ih (by have := rank_of_next? hq; omega)

/-- More fuel than the rank makes no difference. -/
theorem run_eq_settle {fuel : Nat} (h : p.station.rank ≤ fuel) :
    p.run wrapped fuel = p.settle wrapped := by
  unfold settle
  generalize hr : p.station.rank = rank at h ⊢
  -- after one access both runs have fuel left for the smaller rank
  induction rank using Nat.strongRecOn generalizing p fuel with
  | _ rank ih =>
    cases hq : p.next? wrapped with
    | none => cases fuel <;> cases rank <;> simp [run, hq]
    | some q =>
      have hlt := rank_of_next? hq
      obtain ⟨rank, rfl⟩ : ∃ n, rank = n + 1 := ⟨rank - 1, by omega⟩
      obtain ⟨fuel, rfl⟩ : ∃ n, fuel = n + 1 := ⟨fuel - 1, by omega⟩
      simp only [run, hq]
      rw [ih q.station.rank (by omega) rfl (by omega : q.station.rank ≤ fuel),
        ih q.station.rank (by omega) rfl (by omega : q.station.rank ≤ rank)]

/-- A settled worker can only wait. -/
theorem next?_settle (p : Pipeline σ) : (p.settle wrapped).next? wrapped = none :=
  next?_run (Nat.le_refl _)

/-- Settling is one access after the other. -/
theorem settle_of_next? (h : p.next? wrapped = some q) : p.settle wrapped = q.settle wrapped := by
  -- one more fuel than the rank pays for the access
  rw [← run_eq_settle (Nat.le_succ _)]
  simp only [run, h]
  exact run_eq_settle (Nat.le_of_lt (rank_of_next? h))

/-- A worker that can only wait is settled. -/
theorem settle_of_next?_eq_none (h : p.next? wrapped = none) : p.settle wrapped = p := by
  unfold settle
  cases p.station.rank <;> simp [run, h]

end Pipeline

end MetricCourier
