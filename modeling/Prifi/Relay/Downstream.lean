import Prifi.Relay.Delivery

/-!
# What the relay sends to the clients

`downstreamPhase1_openRoundAndSendData` takes the head of the priority queue,
else of the data queue, as the cell of the round it opens, and sends it to
every client. This module says what the relay sends:

- `downstreamCell_snd`: the cell choice pops one queued message and changes
  nothing else;
- `downstreamPhase1OpenRoundAndSendData_sends`: one opening sends the round,
  its owner, the hash of the last upstream cell and the chosen cell;
- **`sendManyLoop_announces`**: a refill of `n` rounds announces rounds
  `nextRoundToOpen`, …, `nextRoundToOpen + n - 1`, in this order, each to
  every client (or in one UDP broadcast), and sends nothing else.
-/

namespace Prifi

namespace RelayState

variable {σ : Type} (env : RelayEnv σ) {s : RelayState σ}

/-- The messages that send the cell `d`: one per client over TCP, one
broadcast over UDP. -/
def downstreamMessages (s : RelayState σ) (d : RelCliDownstreamData) :
    List (Destination × RelayMessage) :=
  if s.useUDP then [(.allClients, .relCliDownstreamDataUDP d)]
  else (List.range s.nClients.toNat).map fun (i : Nat) => (.client i, .relCliDownstreamData d)

/-- The cell choice pops the head of the priority queue, else of the data
queue, and changes nothing else. -/
theorem downstreamCell_snd : ∃ p d, s.downstreamCell.2 =
    { s with priorityDataForClients := p, dataForClients := d } ∧
    p = s.priorityDataForClients.tail ∧
    d = if s.priorityDataForClients = [] then s.dataForClients.tail else s.dataForClients := by
  unfold downstreamCell
  rcases hp : s.priorityDataForClients with _ | ⟨x, xs⟩ <;>
    rcases hd : s.dataForClients with _ | ⟨y, ys⟩
  · exact ⟨_, _, rfl, by rw [hp]; rfl, by rw [hd]; rfl⟩
  all_goals exact ⟨_, _, rfl, rfl, by simp⟩

/-- The message a round's opening sends: the round, its owner, the hash of
the last upstream cell, the chosen cell, and the open/closed request flag;
the queues lose the popped message. -/
theorem downstreamPhase1OpenRoundAndSendData_sends {e : DCNetEntity} (hd : s.dcNet = some e) :
    ∃ s', s.downstreamPhase1OpenRoundAndSendData env = .ok s' ∧
      s'.sent = s.sent ++ s.downstreamMessages ⟨s.roundManager.nextRoundToOpen,
        env.nextOwnerID s.roundManager, s.hashOfLastUpstreamMessage, s.downstreamCell.1, false,
        s.useOpenClosedSlots && env.isNextDownstreamRoundForOpenClosedRequest s.roundManager s.nClients⟩ ∧
      s'.priorityDataForClients = s.priorityDataForClients.tail ∧
      s'.dataForClients =
        (if s.priorityDataForClients = [] then s.dataForClients.tail else s.dataForClients) ∧
      s'.useUDP = s.useUDP ∧ s'.nClients = s.nClients := by
  obtain ⟨p, d, hc, hp, hq⟩ := s.downstreamCell_snd
  rcases hcell : s.downstreamCell with ⟨c, s₀⟩
  rw [hcell] at hc
  simp only at hc
  subst hc
  simp only [downstreamPhase1OpenRoundAndSendData, hcell, decodeStartIfIdle, dcNetEntity, hd]
  subst hp hq
  by_cases hcur : s.roundManager.currentRound.1 = true <;>
    simp [hcur, sendDownstream_eq, downstreamMessages, bind, Except.bind, pure, Except.pure,
      Functor.map, Except.map]

/-- **The refill announces the rounds it opens**: `n` openings send the
cells of rounds `nextRoundToOpen`, …, `nextRoundToOpen + n - 1`, in this
order, each to every client (or in one UDP broadcast), and nothing else. -/
theorem sendManyLoop_announces (n : Nat) {e : DCNetEntity} (hd : s.dcNet = some e) :
    ∃ s', sendManyLoop env n s = .ok s' ∧ ∃ ds : List RelCliDownstreamData,
      ds.map (·.roundID) = roundsFrom s.roundManager.nextRoundToOpen n ∧
      s'.sent = s.sent ++ ds.flatMap s.downstreamMessages := by
  induction n generalizing s e with
  | zero => exact ⟨s, rfl, [], rfl, by simp⟩
  | succ n ih =>
    obtain ⟨s₁, h₁, hsent, -, -, hudp, hn⟩ := downstreamPhase1OpenRoundAndSendData_sends env hd
    obtain ⟨s₁', h₁', hf⟩ := downstreamPhase1OpenRoundAndSendData_roundFields env hd
    obtain rfl : s₁ = s₁' := Except.ok.inj (h₁.symm.trans h₁')
    simp only [roundFields, RoundFields.mk.injEq] at hf
    obtain ⟨-, hrm, -, hdc, -⟩ := hf
    obtain ⟨s₂, h₂, ds, hids, hsent₂⟩ := ih hdc
    have hmsg : s₁.downstreamMessages = s.downstreamMessages := by
      funext d; simp only [downstreamMessages, hudp, hn]
    refine ⟨s₂, by simp only [sendManyLoop, h₁, bind, Except.bind, h₂],
      ⟨s.roundManager.nextRoundToOpen, env.nextOwnerID s.roundManager, s.hashOfLastUpstreamMessage,
        s.downstreamCell.1, false, s.useOpenClosedSlots &&
          env.isNextDownstreamRoundForOpenClosedRequest s.roundManager s.nClients⟩ :: ds, ?_, ?_⟩
    · rw [List.map_cons, hids, hrm]; rfl
    · rw [hsent₂, hsent, hmsg, List.flatMap_cons, List.append_assoc]

/-- The relay of the run below: in `COMMUNICATING` with one client, round 4
open and 5 next, and its DC-net entity. -/
def echoRelay : RelayState Unit :=
  { init () with
    state := .communicating, nClients := 1, disruptionProtectionEnabled := true,
    bEchoFlags := [(3, 1)], lastMessageOfClients := [(2, [4])], dataForClients := [[9]],
    roundManager := ⟨1, 1, [4], 5, 3, [], [], []⟩,
    dcNet := some twoByteRelayEntity }

/-- A relay with its DC-net entity, round 4 open and 5 next: two openings
announce rounds 5 and 6. -/
theorem sendManyLoop_announces_two_rounds :
    ∃ s', sendManyLoop RelayEnv.acceptAll 2 echoRelay = .ok s' ∧ ∃ ds : List RelCliDownstreamData,
      ds.map (·.roundID) = [5, 6] ∧ s'.sent = ds.flatMap echoRelay.downstreamMessages := by
  obtain ⟨s', h, ds, hids, hsent⟩ :=
    sendManyLoop_announces RelayEnv.acceptAll 2 (s := echoRelay) (e := twoByteRelayEntity) rfl
  exact ⟨s', h, ds, hids, hsent⟩

end RelayState

end Prifi
