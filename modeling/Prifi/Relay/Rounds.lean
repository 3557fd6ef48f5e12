import Prifi.Relay.Handlers

/-!
# What each handler does to the rounds

The invariants of the relay (`Machine.lean`) read six of its fields: the
state machine's state, the round manager's open rounds and next round,
`numberOfNonAckedDownstreamPackets`, the window and the DC-net entity. They
are collected in `RelayState.view`. This module gives every handler one lemma
that says what it does to the view, so that the invariants are derived from
these lemmas alone and never unfold a handler:

- the setup handlers move the state along §4.6 and leave the rounds alone,
  except `Received_TRU_REL_TELL_NEW_BASE_AND_EPH_PKS`, which runs
  `DecodeStart(0)`, and `Received_TRU_REL_SHUFFLE_SIG`, which opens the next
  round and sets the counter to 1 (`receivedTruRelShuffleSig_view`);
- `downstreamPhase1OpenRoundAndSendData_view`: one more open round and one
  more packet, with `DecodeStart` of the new round if it is the only one;
- `upstreamPhase3FinalizeRound_view`: one round and one packet less, the
  state kept or `SHUTDOWN`, and the decoder at `DecodeStart` of the oldest
  open round;
- **`upstreamPhase1ProcessCiphers_view`**: what a complete round does to the
  rounds, decode, finalize and refill of the window together.
-/

namespace Prifi

/-- The fields of the relay the round invariants read. -/
structure RoundsView where
  state : RelayStateName
  openRounds : List Int
  nextRoundToOpen : Int
  counter : Int
  windowSize : Int
  dcNet : Option DCNetEntity

namespace RoundsView

/-- The DC-net entity is at `DecodeStart(r)`: decoding round `r`, with
nothing absorbed yet. -/
def DecoderAt (v : RoundsView) (r : Int) : Prop :=
  ∃ e : DCNetEntity, v.dcNet = some (e.decodeStart r)

/-- The decoder is at `DecodeStart` of the oldest open round, if a round is
open. -/
def SyncHead (v : RoundsView) : Prop :=
  ∀ r, v.openRounds.head? = some r → v.DecoderAt r

end RoundsView

namespace RelayState

variable {σ : Type} (env : RelayEnv σ)

/-- The fields of `s` the round invariants read. -/
def view (s : RelayState σ) : RoundsView :=
  ⟨s.state, s.roundManager.openRounds, s.roundManager.nextRoundToOpen,
    s.numberOfNonAckedDownstreamPackets, s.windowSize, s.dcNet⟩

variable {s s' : RelayState σ}

/-! ## Sending and changing state -/

@[simp] theorem view_send (d : Destination) (m : RelayMessage) : (s.send d m).view = s.view := rfl

@[simp] theorem view_sendToAll (d : Int → Destination) (n : Int) (m : RelayMessage) :
    (s.sendToAll d n m).view = s.view := by
  rw [sendToAll_eq]; rfl

@[simp] theorem view_changeState (st : RelayStateName) :
    (s.changeState st).view = { s.view with state := st } := rfl

theorem sendDownstream_eq (d : RelCliDownstreamData) : s.sendDownstream d =
    { s with sent := s.sent ++ if s.useUDP then [(.allClients, .relCliDownstreamDataUDP d)]
      else (List.range s.nClients.toNat).map fun (i : Nat) => (.client i, .relCliDownstreamData d) } := by
  by_cases hu : s.useUDP <;>
    simp only [sendDownstream, hu, if_true, if_false, send, sendToAll_eq, Bool.false_eq_true]

@[simp] theorem view_sendDownstream (d : RelCliDownstreamData) :
    (s.sendDownstream d).view = s.view := by
  rw [sendDownstream_eq]; rfl

@[simp] theorem view_broadcastParameters : s.broadcastParameters.view = s.view := by
  simp only [broadcastParameters, foldl_send]; rfl

theorem view_receivedAllAllShutdown :
    s.receivedAllAllShutdown.view = { s.view with state := .shutdown } := by
  simp [receivedAllAllShutdown]

/-! ## Setup -/

/-- The parameters either fail (nothing changes) or reset the rounds, and
enter `COLLECTING_TRUSTEES_PKS` under `StartNow`. -/
theorem receivedAllAllParameters_view {msg : AllAllParameters} {err : Option String}
    (h : s.receivedAllAllParameters msg = .ok (s', err)) :
    s'.view = s.view ∨ ∃ (startNow : Bool) (w : Int),
      s'.view = ⟨if startNow then .collectingTrusteesPks else s.state, [], 0, 0, w, s.dcNet⟩ := by
  simp only [receivedAllAllParameters, except_bind_eq_ok] at h
  repeat obtain ⟨_, -, h⟩ := h
  split_ifs at h
  · cases h; exact .inl rfl
  all_goals simp [except_bind_eq_ok, pure, Except.pure, throw, throwThe, MonadExceptOf.throw] at h
  all_goals obtain ⟨_, -, _, -, _, -, rfl, -⟩ := h
  · exact .inr ⟨true, _, by simp only [view_broadcastParameters, view_changeState]; rfl⟩
  · exact .inr ⟨false, _, rfl⟩

/-- The only error the parameters handler returns, rather than panics
with, is for a `PayloadSize` below 1, and it leaves the relay as it was,
with nothing sent. -/
theorem receivedAllAllParameters_error {msg : AllAllParameters} {e : String}
    (h : s.receivedAllAllParameters msg = .ok (s', some e)) :
    s' = s ∧ e = "payloadSize cannot be 0" ∧
      ∃ payloadSize, msg.intValueOrElse "PayloadSize" s.payloadSize = .ok payloadSize ∧ payloadSize < 1 := by
  simp only [receivedAllAllParameters, except_bind_eq_ok] at h
  obtain ⟨_, -, _, -, _, -, p, hp, h⟩ := h
  repeat obtain ⟨_, -, h⟩ := h
  split_ifs at h with hlt
  · cases h; exact ⟨rfl, rfl, p, hp, hlt⟩
  all_goals simp [except_bind_eq_ok, pure, Except.pure, throw, throwThe, MonadExceptOf.throw] at h

theorem receivedTruRelTellPk_view {i : Int} {pk : Option Bytes} {err : Option String}
    (h : s.receivedTruRelTellPk i pk = .ok (s', err)) :
    s'.view = s.view ∨ s'.view = { s.view with state := .collectingClientPks } := by
  simp only [receivedTruRelTellPk, except_bind_eq_ok] at h
  obtain ⟨_, -, h⟩ := h
  split_ifs at h
  · simp [except_bind_eq_ok, pure, Except.pure] at h
    obtain ⟨_, -, rfl, -⟩ := h
    exact .inr (by simp only [view_changeState, foldl_send]; rfl)
  · cases h; exact .inl rfl

theorem receivedCliRelTellPkAndEphPk_view {i : Int} {pk ephPk : Option Bytes}
    {err : Option String} (h : s.receivedCliRelTellPkAndEphPk env i pk ephPk = .ok (s', err)) :
    s'.view = s.view ∨ s'.view = { s.view with state := .collectingShuffles } := by
  simp only [receivedCliRelTellPkAndEphPk, except_bind_eq_ok] at h
  obtain ⟨_, -, h⟩ := h
  split_ifs at h
  · simp only [except_bind_eq_ok] at h
    obtain ⟨_, -, h⟩ := h
    split at h
    · cases h; exact .inl rfl
    · simp [except_bind_eq_ok, pure, Except.pure] at h
      obtain ⟨_, -, rfl, -⟩ := h
      exact .inr rfl
  · cases h; exact .inl rfl

/-- After the last shuffle the decoder is at `DecodeStart(0)`. -/
theorem receivedTruRelTellNewBaseAndEphPks_view {b : Bytes} {pks : List (Option Bytes)}
    {proof vkey : Bytes} {err : Option String}
    (h : s.receivedTruRelTellNewBaseAndEphPks env b pks proof vkey = .ok (s', err)) :
    s'.view = s.view ∨ ∃ e : DCNetEntity,
      s'.view = { s.view with state := .collectingShuffleSignatures, dcNet := some (e.decodeStart 0) } := by
  simp only [receivedTruRelTellNewBaseAndEphPks, except_bind_eq_ok] at h
  obtain ⟨_, -, h⟩ := h
  split at h
  · cases h; exact .inl rfl
  · split at h
    · cases h; exact .inl rfl
    · simp only [except_bind_eq_ok] at h
      obtain ⟨_, -, h⟩ := h
      cases h; exact .inl rfl
  · split at h
    · cases h; exact .inl rfl
    · simp only [except_bind_eq_ok] at h
      obtain ⟨e, -, h⟩ := h
      cases h; exact .inr ⟨e, by simp only [view_changeState, sendToAll_eq]; rfl⟩

/-- After the last signature the next round is open and the counter is 1,
whatever it was. -/
theorem receivedTruRelShuffleSig_view {i : Int} {sig : Bytes} {err : Option String}
    (h : s.receivedTruRelShuffleSig env i sig = .ok (s', err)) :
    s'.view = s.view ∨ s'.view =
      { s.view with
        state := .communicating, openRounds := s.view.openRounds ++ [s.view.nextRoundToOpen],
        nextRoundToOpen := s.view.nextRoundToOpen + 1, counter := 1 } := by
  simp only [receivedTruRelShuffleSig] at h
  split at h
  · cases h; exact .inl rfl
  · cases h; exact .inl rfl
  · simp only [except_bind_eq_ok] at h
    obtain ⟨_, -, h⟩ := h
    split at h
    · cases h; exact .inl rfl
    · cases h; exact .inr (by simp only [sendToAll_eq]; rfl)

/-! ## Opening rounds -/

@[simp] theorem view_downstreamCell : s.downstreamCell.2.view = s.view := by
  unfold downstreamCell
  cases hp : s.priorityDataForClients <;> cases hd : s.dataForClients <;> simp only [hp, hd] <;> rfl

theorem decodeStartIfIdle_view {r : Int} (h : s.decodeStartIfIdle r = .ok s') :
    s'.view = { s.view with dcNet := s'.dcNet } ∧
      (s.roundManager.openRounds ≠ [] → s'.dcNet = s.dcNet) ∧
      (s.roundManager.openRounds = [] → s'.view.DecoderAt r) := by
  unfold decodeStartIfIdle at h
  split at h
  · cases h; exact ⟨rfl, fun _ => rfl, fun h' => by simp_all⟩
  · cases he : s.dcNetEntity with
    | error => simp [he, Functor.map, Except.map] at h
    | ok e =>
      simp only [he, Functor.map, Except.map, Except.ok.injEq] at h
      subst h
      exact ⟨rfl, fun h' => by simp_all, fun _ => ⟨e, rfl⟩⟩

/-- One more open round, the next one, and one more packet; the decoder
stays at the oldest open round. -/
theorem downstreamPhase1OpenRoundAndSendData_view
    (h : s.downstreamPhase1OpenRoundAndSendData env = .ok s') :
    s'.view.state = s.view.state ∧ s'.view.windowSize = s.view.windowSize ∧
      s'.view.counter = s.view.counter + 1 ∧
      s'.view.openRounds = s.view.openRounds ++ [s.view.nextRoundToOpen] ∧
      (s.view.SyncHead → s'.view.SyncHead) := by
  have h₀ := s.view_downstreamCell
  rcases hc : s.downstreamCell with ⟨c, s₀⟩
  rw [hc] at h₀
  simp only [downstreamPhase1OpenRoundAndSendData, hc, except_bind_eq_ok, pure, Except.pure,
    Except.ok.injEq] at h
  obtain ⟨s₁, h₁, rfl⟩ := h
  obtain ⟨hv, hopen, hidle⟩ := decodeStartIfIdle_view h₁
  simp only [view, RoundsView.mk.injEq, RoundsView.DecoderAt, ne_eq] at hv h₀ hidle hopen ⊢
  obtain ⟨hst, hor, hnx, hct, hw, hdc⟩ := h₀
  simp only [sendDownstream_eq, RoundManager.openRounds_openNextRound, hv, hst, hor, hnx, hct, hw,
    true_and]
  intro hsync r hr
  simp only [RoundsView.SyncHead, RoundsView.DecoderAt] at hsync ⊢
  rcases hnil : s.roundManager.openRounds with _ | ⟨r₀, rs⟩
  case nil =>
    simp only [hnil, List.nil_append, List.head?_cons, Option.some.injEq] at hr
    subst hr
    obtain ⟨e, he⟩ := hidle (by rw [hor, hnil])
    exact ⟨e, by rw [he, hnx]⟩
  case cons =>
    simp only [hnil, List.cons_append, List.head?_cons, Option.some.injEq] at hr
    subst hr
    obtain ⟨e, he⟩ := hsync r₀ (by simp [hnil])
    exact ⟨e, by rw [hopen (by simp [hor, hnil]), hdc, he]⟩

theorem sendManyLoop_view {n : Nat} (h : sendManyLoop env n s = .ok s') :
    s'.view.state = s.view.state ∧ s'.view.windowSize = s.view.windowSize ∧
      s'.view.counter = s.view.counter + n ∧
      s'.view.openRounds.length = s.view.openRounds.length + n ∧
      (s.view.SyncHead → s'.view.SyncHead) := by
  induction n generalizing s with
  | zero => cases h; simp
  | succ n ih =>
    simp only [sendManyLoop, except_bind_eq_ok] at h
    obtain ⟨s₁, h₁, h⟩ := h
    obtain ⟨hs₁, hw₁, hc₁, ho₁, hy₁⟩ := downstreamPhase1OpenRoundAndSendData_view env h₁
    obtain ⟨hs, hw, hc, ho, hy⟩ := ih h
    refine ⟨hs.trans hs₁, hw.trans hw₁, by rw [hc, hc₁]; omega,
      by rw [ho, ho₁, List.length_append, List.length_singleton]; omega, fun h => hy (hy₁ h)⟩

/-! ## Decoding a round -/

theorem upstreamPhase2aExtractOCMap_view {r : Int} {err : Option String}
    (h : s.upstreamPhase2aExtractOCMap env r = .ok (s', err)) :
    s'.view = { s.view with dcNet := s'.dcNet } := by
  rcases hd : s.roundManager.collectRoundData with ⟨cs, ts⟩
  simp only [upstreamPhase2aExtractOCMap, hd, except_bind_eq_ok, pure, Except.pure,
    Except.ok.injEq, Prod.mk.injEq] at h
  obtain ⟨_, -, _, -, _, -, rfl, -⟩ := h
  simp [view]

theorem disruptionCheck_view {r : Int} {p p' : Bytes}
    (h : disruptionCheck env s r p = .ok (s', p')) : s'.view = s.view := by
  unfold disruptionCheck at h
  split at h
  · simp only [except_bind_eq_ok, pure, Except.pure, Except.ok.injEq, Prod.mk.injEq] at h
    obtain ⟨_, -, rfl, -⟩ := h
    split_ifs <;> simp [view, sendToAll_eq]
  · cases h; rfl

theorem deliverPayload_view {p : Bytes} {err : Option String}
    (h : s.deliverPayload p = .ok (s', err)) : s'.view = s.view := by
  have : AllOk (fun r => r.1.view = s.view) (s.deliverPayload p) := by
    simp [deliverPayload, view]
  exact this _ h

theorem upstreamPhase2bExtractPayload_view {err : Option String}
    (h : s.upstreamPhase2bExtractPayload env = .ok (s', err)) :
    s'.view = { s.view with dcNet := s'.dcNet } := by
  rcases hd : s.roundManager.collectRoundData with ⟨cs, ts⟩
  simp only [upstreamPhase2bExtractPayload, hd, except_bind_eq_ok] at h
  obtain ⟨_, -, e, -, _, -, ⟨s₂, q⟩, h₂, h⟩ := h
  have hv := (deliverPayload_view h).trans (disruptionCheck_view env h₂)
  rw [hv, show s'.dcNet = some e from congrArg RoundsView.dcNet hv]
  rfl

theorem upstreamPhase2ExtractRound_view {r : Int} {err : Option String}
    (h : s.upstreamPhase2ExtractRound env r = .ok (s', err)) :
    s'.view = { s.view with dcNet := s'.dcNet } := by
  unfold upstreamPhase2ExtractRound at h
  split at h
  · exact upstreamPhase2aExtractOCMap_view env h
  · exact upstreamPhase2bExtractPayload_view env h

/-! ## Closing a round -/

theorem stopAtRoundLimit_eq (s : RelayState σ) : s.stopAtRoundLimit = s ∨
    ∃ sent, s.stopAtRoundLimit = { s with state := .shutdown, sent := sent } := by
  unfold stopAtRoundLimit; split
  · exact .inr ⟨_, by rw [receivedAllAllShutdown, sendToAll_eq, sendToAll_eq]; rfl⟩
  · exact .inl rfl

theorem decodeStartNextOpen_view (h : s.decodeStartNextOpen = .ok s') :
    s'.view = { s.view with dcNet := s'.dcNet } ∧ s'.view.SyncHead := by
  unfold decodeStartNextOpen at h
  split at h
  · rename_i r hr
    cases he : s.dcNetEntity with
    | error => simp [he, Functor.map, Except.map] at h
    | ok e =>
      simp only [he, Functor.map, Except.map, Except.ok.injEq] at h
      subst h
      refine ⟨rfl, fun r' hr' => ⟨e, ?_⟩⟩
      rw [RoundManager.currentRound_eq_true] at hr
      simp only [view] at hr'
      rw [hr] at hr'
      cases hr'
      rfl
  · cases h
    rename_i hcur
    have hnil : s.roundManager.openRounds = [] := by
      by_contra hne
      have := (s.roundManager.currentRound_fst).mpr hne
      rw [hcur] at this
      exact Bool.false_ne_true this
    exact ⟨rfl, fun r hr => by simp [view, hnil] at hr⟩

/-- One round and one packet less; the state kept, or `SHUTDOWN` at the
round limit; the decoder at `DecodeStart` of the oldest open round. -/
theorem upstreamPhase3FinalizeRound_view (h : s.upstreamPhase3FinalizeRound = .ok s') :
    (s'.view.state = s.view.state ∨ s'.view.state = .shutdown) ∧
      s'.view.windowSize = s.view.windowSize ∧ s'.view.counter = s.view.counter - 1 ∧
      s'.view.openRounds = s.view.openRounds.tail ∧ s'.view.SyncHead := by
  obtain ⟨hv, hsync⟩ := decodeStartNextOpen_view h
  rcases stopAtRoundLimit_eq ({ s with
    numberOfNonAckedDownstreamPackets := s.numberOfNonAckedDownstreamPackets - 1 } : RelayState σ)
    with hs | ⟨_, hs⟩ <;>
  · rw [hs] at hv
    simp only [view, RoundsView.mk.injEq, RoundManager.openRounds_closeRound] at hv
    refine ⟨?_, ?_, ?_, ?_, hsync⟩ <;> simp only [view, hv, true_or, or_true]

/-! ## A complete round -/

/-- **What a complete round does to the rounds**: the oldest round closed,
then rounds opened until the counter reaches the window (none if it already
has); the state kept or `SHUTDOWN`; the decoder at `DecodeStart` of the
oldest open round. -/
theorem upstreamPhase1ProcessCiphers_view (h : upstreamPhase1ProcessCiphers env s = .ok s') :
    (s'.view.state = s.view.state ∨ s'.view.state = .shutdown) ∧
      s'.view.windowSize = s.view.windowSize ∧
      s'.view.counter = s.view.counter - 1 + (s.view.windowSize - (s.view.counter - 1)).toNat ∧
      s'.view.openRounds.length =
        s.view.openRounds.tail.length + (s.view.windowSize - (s.view.counter - 1)).toNat ∧
      s'.view.SyncHead := by
  simp only [upstreamPhase1ProcessCiphers, downstreamPhaseSendMany, except_bind_eq_ok] at h
  obtain ⟨⟨s₂, _⟩, h₂, s₃, h₃, h⟩ := h
  have hv₂ := upstreamPhase2ExtractRound_view env h₂
  obtain ⟨hst₃, hw₃, hc₃, ho₃, hsync₃⟩ := upstreamPhase3FinalizeRound_view h₃
  obtain ⟨hst', hw', hc', ho', hsync'⟩ := sendManyLoop_view env h
  rw [hv₂] at hst₃ hw₃ hc₃ ho₃
  refine ⟨hst₃.imp (hst'.trans ·) (hst'.trans ·), hw'.trans hw₃, ?_, ?_, hsync' hsync₃⟩
  · rw [hc', hc₃]; simp only [view] at hw₃ hc₃ ⊢; rw [hw₃, hc₃]
  · rw [ho', ho₃]; simp only [view] at hw₃ hc₃ ⊢; rw [hw₃, hc₃]

end RelayState

end Prifi
