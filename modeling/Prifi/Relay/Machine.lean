import Prifi.Relay.Rounds

/-!
# The relay's runs

`relay.go` has the handlers but not the state machine that calls them.
Modelled from the spec (§4.6), `receivedMessage` hands a message to its
handler in the states that expect it and drops it in the others; `SHUTDOWN`
drops everything. `Reachable` holds of the states a relay reaches from
`RelayState.init` through any sequence of messages, in any order, with any
window; a handler's panic stops the relay.

The invariant `RoundsInvariant` is stated on the view of `Rounds.lean` and
derived from the per-handler lemmas there:

- **`nonAckedPackets_eq_openRounds`**: in every reachable state
  `numberOfNonAckedDownstreamPackets` is the number of open rounds, and at
  most `max 1 WindowSize`. The bound `WindowSize` alone fails: the parameters
  accept `WindowSize = 0`, and `Received_TRU_REL_SHUFFLE_SIG` opens round 0
  and sets the counter to 1 whatever the window
  (`counter_exceeds_zero_window`).
- **`decoder_in_sync`**: in every reachable `COMMUNICATING` state with a round
  open, the DC-net entity is at `DecodeStart(r)` for the oldest open round
  `r = CurrentRound()`; so the round's decode calls pass the round check and
  XOR exactly the ciphers they are given. Buffering a cipher changes neither
  the open rounds nor the entity, so this is the state the decode of
  `upstreamPhase1_processCiphers` starts from.

Runs on small inputs, with `RelayEnv.acceptAll`:

- `repeated_tellPk_skips_trustee`: `Received_TRU_REL_TELL_PK` counts
  messages, not trustees; one trustee telling its key twice sends the clients
  a `nil` key for the other;
- `roundLimit_shutdown_then_downstream`: at `ExperimentRoundLimit` the relay
  sends `ALL_ALL_SHUTDOWN` and then, in the same call, opens a round and sends
  `REL_CLI_DOWNSTREAM_DATA`.
-/

namespace Prifi

/-! ## The invariant -/

/-- What holds of the rounds in every reachable state. -/
structure RoundsInvariant (v : RoundsView) : Prop where
  /-- The counter counts the open rounds. -/
  counter_eq : v.counter = v.openRounds.length
  /-- It stays within the window, or at 1 below a window of 1. -/
  counter_le : v.counter ≤ max 1 v.windowSize
  /-- Before `COMMUNICATING`, no round is open and round 0 is next. -/
  setup_rounds : v.state ≠ .communicating → v.state ≠ .shutdown →
    v.openRounds = [] ∧ v.nextRoundToOpen = 0
  /-- While the signatures come in, the decoder waits at `DecodeStart(0)`. -/
  sigs_fresh : v.state = .collectingShuffleSignatures → v.DecoderAt 0
  /-- In `COMMUNICATING`, the decoder is at the oldest open round. -/
  sync : v.state = .communicating → v.SyncHead

namespace RoundsInvariant

variable {v : RoundsView}

theorem toShutdown (hi : RoundsInvariant v) : RoundsInvariant { v with state := .shutdown } :=
  ⟨hi.counter_eq, hi.counter_le, fun _ h => absurd rfl h, nofun, nofun⟩

/-- A move between setup states. -/
theorem toSetupState (hi : RoundsInvariant v) (hc : v.state ≠ .communicating)
    (hs : v.state ≠ .shutdown) {st : RelayStateName} (hc' : st ≠ .communicating)
    (hsig : st ≠ .collectingShuffleSignatures) : RoundsInvariant { v with state := st } :=
  ⟨hi.counter_eq, hi.counter_le, fun _ _ => hi.setup_rounds hc hs, fun h => absurd h hsig,
    fun h => absurd h hc'⟩

/-- Parameters reset the rounds. -/
theorem reset (hi : RoundsInvariant v) (b : Bool) (w : Int) :
    RoundsInvariant ⟨if b then .collectingTrusteesPks else v.state, [], 0, 0, w, v.dcNet⟩ := by
  refine ⟨rfl, by simp, fun _ _ => ⟨rfl, rfl⟩, fun h => ?_, fun _ r hr => by simp at hr⟩
  cases b
  · exact hi.sigs_fresh h
  · cases h

theorem toSigs (hi : RoundsInvariant v) (hv : v.state = .collectingShuffles) (e : DCNetEntity) :
    RoundsInvariant { v with state := .collectingShuffleSignatures, dcNet := some (e.decodeStart 0) } :=
  ⟨hi.counter_eq, hi.counter_le, fun _ _ => hi.setup_rounds (by simp [hv]) (by simp [hv]),
    fun _ => ⟨e, rfl⟩, nofun⟩

/-- The last signature opens round 0, the round the decoder waits at. -/
theorem toCommunicating (hi : RoundsInvariant v) (hv : v.state = .collectingShuffleSignatures) :
    RoundsInvariant { v with
      state := .communicating, openRounds := v.openRounds ++ [v.nextRoundToOpen],
      nextRoundToOpen := v.nextRoundToOpen + 1, counter := 1 } := by
  obtain ⟨hnil, hnext⟩ := hi.setup_rounds (by simp [hv]) (by simp [hv])
  obtain ⟨e, he⟩ := hi.sigs_fresh hv
  refine ⟨by simp [hnil], by simp, fun h => absurd rfl h, nofun, fun _ r hr => ⟨e, ?_⟩⟩
  simp only [hnil, hnext, List.nil_append, List.head?_cons, Option.some.injEq] at hr
  rw [← hr]; exact he

end RoundsInvariant

namespace RelayState

variable {σ : Type} (env : RelayEnv σ) {s s' : RelayState σ}

/-- A complete round keeps the invariant: the window refill brings the
counter to `max (counter - 1) WindowSize`. -/
theorem upstreamPhase1ProcessCiphers_invariant (hi : RoundsInvariant s.view)
    (hst : s.state = .communicating) (hne : s.roundManager.openRounds ≠ [])
    (h : upstreamPhase1ProcessCiphers env s = .ok s') : RoundsInvariant s'.view := by
  obtain ⟨hst', hw, hc, hlen, hsync⟩ := upstreamPhase1ProcessCiphers_view env h
  have hpos : 0 < s.view.openRounds.length := List.length_pos.mpr hne
  have hc₀ := hi.counter_eq
  have hle := hi.counter_le
  refine ⟨?_, ?_, ?_, ?_, fun _ => hsync⟩
  · rw [hc, hlen, List.length_tail]; omega
  · rw [hc, hw]; omega
  · intro h₁ h₂; rcases hst' with h₃ | h₃ <;> simp_all [view]
  · intro h₁; rcases hst' with h₃ | h₃ <;> simp_all [view]

theorem processIfComplete_invariant (hi : RoundsInvariant s.view)
    (hst : s.state = .communicating) (h : processIfComplete env s = .ok s') :
    RoundsInvariant s'.view := by
  unfold processIfComplete at h
  split at h
  · exact upstreamPhase1ProcessCiphers_invariant env hi hst
      (RoundManager.openRounds_ne_nil_of_hasAll _ ‹_›) h
  · cases h; exact hi

end RelayState

/-! ## The dispatcher -/

/-- Modelled from the spec (§4.6): whether the relay in state `st` hands a
message to its handler. Shutdown is handled in every state but `SHUTDOWN`,
parameters before the setup or, with `ForceParams`, later; every other
message in the one state that collects it. -/
def RelayInput.handledIn : RelayInput → RelayStateName → Bool
  | .allAllShutdown, st => st != .shutdown
  | .allAllParameters m, st => st == .beforeInit || (m.forceParams && st != .shutdown)
  | .truRelTellPk .., st => st == .collectingTrusteesPks
  | .cliRelTellPkAndEphPk .., st => st == .collectingClientPks
  | .truRelTellNewBaseAndEphPks .., st => st == .collectingShuffles
  | .truRelShuffleSig .., st => st == .collectingShuffleSignatures
  | .cliRelUpstreamData .., st => st == .communicating
  | .truRelDcCipher .., st => st == .communicating
  | .cliRelOpenClosedData .., st => st == .communicating

namespace RelayState

variable {σ : Type} (env : RelayEnv σ)

/-- Modelled from the spec (§4.6): `ReceivedMessage`, the handler of a
message in a state that expects it; any other message is dropped. Returns the
new state and the handler's error. -/
def receivedMessage (s : RelayState σ) (m : RelayInput) :
    Except String (RelayState σ × Option String) :=
  if m.handledIn s.state then
    match m with
    | .allAllShutdown => .ok (s.receivedAllAllShutdown, none)
    | .allAllParameters msg => s.receivedAllAllParameters msg
    | .truRelTellPk i pk => s.receivedTruRelTellPk i pk
    | .cliRelTellPkAndEphPk i pk ephPk => s.receivedCliRelTellPkAndEphPk env i pk ephPk
    | .truRelTellNewBaseAndEphPks b pks proof vkey =>
      s.receivedTruRelTellNewBaseAndEphPks env b pks proof vkey
    | .truRelShuffleSig i sig => s.receivedTruRelShuffleSig env i sig
    | .cliRelUpstreamData i r d => (·, none) <$> s.receivedCliRelUpstreamData env i r d
    | .truRelDcCipher i r d => (·, none) <$> s.receivedTruRelDcCipher env i r d
    | .cliRelOpenClosedData i r d => (·, none) <$> s.receivedCliRelOpenClosedData env i r d
  else .ok (s, none)

/-- The states a relay reaches from `init neff₀`; a handler's panic stops
the relay. -/
inductive Reachable (neff₀ : σ) : RelayState σ → Prop
  | initial : Reachable neff₀ (RelayState.init neff₀)
  | step {s s' : RelayState σ} {m : RelayInput} {err : Option String} :
      Reachable neff₀ s → s.receivedMessage env m = .ok (s', err) → Reachable neff₀ s'

/-- The relay on a sequence of messages, in order. -/
def run (s : RelayState σ) : List RelayInput → Except String (RelayState σ)
  | [] => .ok s
  | m :: ms => do run (← s.receivedMessage env m).1 ms

variable {s s' : RelayState σ}

theorem Reachable.run {neff₀ : σ} (hs : Reachable env neff₀ s) {ms : List RelayInput}
    (h : RelayState.run env s ms = .ok s') : Reachable env neff₀ s' := by
  induction ms generalizing s with
  | nil => cases h; exact hs
  | cons m ms ih =>
    simp only [RelayState.run, except_bind_eq_ok] at h
    obtain ⟨⟨s₁, err⟩, h₁, h⟩ := h
    exact ih (hs.step h₁) h

theorem run_append (s : RelayState σ) (ms ms' : List RelayInput) :
    run env s (ms ++ ms') = (run env s ms >>= fun s₁ => run env s₁ ms') := by
  induction ms generalizing s with
  | nil => rfl
  | cons m ms ih =>
    simp only [List.cons_append, run]
    cases s.receivedMessage env m <;> simp [bind, Except.bind, ih]

/-! ## Every reachable state keeps the invariant -/

theorem map_pair_eq_ok {x : Except String (RelayState σ)} {err : Option String}
    (h : ((·, none) <$> x : Except String (RelayState σ × Option String)) = .ok (s', err)) :
    x = .ok s' := by
  cases x with
  | error => cases h
  | ok a => cases h; rfl

theorem receivedMessage_invariant {m : RelayInput} {err : Option String}
    (hi : RoundsInvariant s.view) (h : s.receivedMessage env m = .ok (s', err)) :
    RoundsInvariant s'.view := by
  unfold receivedMessage at h
  split at h
  case isFalse => cases h; exact hi
  rename_i hm
  have hbuf : ∀ rm : RoundManager, rm.openRounds = s.roundManager.openRounds →
      rm.nextRoundToOpen = s.roundManager.nextRoundToOpen →
      RoundsInvariant ({ s with roundManager := rm } : RelayState σ).view := by
    intro rm h₁ h₂; simpa [view, h₁, h₂] using hi
  cases m <;> simp only [RelayInput.handledIn, beq_iff_eq, bne_iff_ne, Bool.or_eq_true,
    Bool.and_eq_true] at hm
  case allAllShutdown => cases h; rw [view_receivedAllAllShutdown]; exact hi.toShutdown
  case allAllParameters msg =>
    rcases receivedAllAllParameters_view h with hv | ⟨b, w, hv⟩ <;> rw [hv]
    exacts [hi, hi.reset b w]
  case truRelTellPk i pk =>
    rcases receivedTruRelTellPk_view h with hv | hv <;> rw [hv]
    exacts [hi, hi.toSetupState (by simp [view, hm]) (by simp [view, hm]) nofun nofun]
  case cliRelTellPkAndEphPk i pk ephPk =>
    rcases receivedCliRelTellPkAndEphPk_view env h with hv | hv <;> rw [hv]
    exacts [hi, hi.toSetupState (by simp [view, hm]) (by simp [view, hm]) nofun nofun]
  case truRelTellNewBaseAndEphPks b pks proof vkey =>
    rcases receivedTruRelTellNewBaseAndEphPks_view env h with hv | ⟨e, hv⟩ <;> rw [hv]
    exacts [hi, hi.toSigs hm e]
  case truRelShuffleSig i sig =>
    rcases receivedTruRelShuffleSig_view env h with hv | hv <;> rw [hv]
    exacts [hi, hi.toCommunicating hm]
  case cliRelUpstreamData i r d =>
    exact processIfComplete_invariant env (hbuf (s.roundManager.addClientCipher r i d) (by simp)
      (by simp)) hm (map_pair_eq_ok h)
  case truRelDcCipher i r d =>
    exact processIfComplete_invariant env (hbuf (s.roundManager.addTrusteeCipher r i d) (by simp)
      (by simp)) hm (map_pair_eq_ok h)
  case cliRelOpenClosedData i r d =>
    exact processIfComplete_invariant env (hbuf (s.roundManager.addClientCipher r i d) (by simp)
      (by simp)) hm (map_pair_eq_ok h)

theorem init_invariant (neff : σ) : RoundsInvariant (RelayState.init neff).view :=
  ⟨rfl, by simp [view, RelayState.init], fun _ _ => ⟨rfl, rfl⟩, nofun, nofun⟩

theorem reachable_invariant {neff₀ : σ} (hs : Reachable env neff₀ s) : RoundsInvariant s.view := by
  induction hs with
  | initial => exact init_invariant _
  | step _ h ih => exact receivedMessage_invariant env ih h

/-! ## The counter and the decoder -/

/-- **The counter counts the open rounds**, in every reachable state, and
stays at most `max 1 WindowSize`. -/
theorem nonAckedPackets_eq_openRounds {neff₀ : σ} (hs : Reachable env neff₀ s) :
    s.numberOfNonAckedDownstreamPackets = s.roundManager.openRounds.length ∧
      0 ≤ s.numberOfNonAckedDownstreamPackets ∧
      s.numberOfNonAckedDownstreamPackets ≤ max 1 s.windowSize := by
  have hi := reachable_invariant env hs
  have hc : s.numberOfNonAckedDownstreamPackets = s.roundManager.openRounds.length := hi.counter_eq
  exact ⟨hc, by omega, hi.counter_le⟩

theorem roundID_of_mem_decodeCalls {r : Int} {cs ts : List Bytes} {op : DecodeOp}
    (h : op ∈ decodeCalls env r cs ts) : op.roundID = r := by
  simp only [decodeCalls, List.mem_append, List.mem_map] at h
  rcases h with ⟨_, -, rfl⟩ | ⟨_, -, rfl⟩ <;> rfl

/-- **The decoder is in sync with the round it decodes**: in every reachable
`COMMUNICATING` state whose oldest open round is `r`, `CurrentRound()` is `r`
and the DC-net entity is at `DecodeStart(r)`. The decode calls of round `r`
then never hit the round check: they XOR their ciphers into the fresh
accumulator, or panic on a cipher longer than it. -/
theorem decoder_in_sync {neff₀ : σ} (hs : Reachable env neff₀ s) (hst : s.state = .communicating)
    {r : Int} (hr : s.roundManager.openRounds.head? = some r) :
    s.roundManager.currentRoundID = r ∧ ∃ e : DCNetEntity, s.dcNet = some (e.decodeStart r) ∧
      ∀ clientSlices trusteesSlices : List Bytes,
        (∃ e' d', (e.decodeStart r).decodeAll (decodeCalls env r clientSlices trusteesSlices) = .ok e' ∧
          e'.dcNetRoundDecoder = some d' ∧ d'.currentRoundBeingDecoded = r ∧
          d'.xorBuffer = ((clientSlices ++ trusteesSlices).map fun c => (env.cipherFromBytes c).payload).foldl
            xorInto (List.replicate e.contentLength 0)) ∨
        (e.decodeStart r).decodeAll (decodeCalls env r clientSlices trusteesSlices) =
          .error (indexOutOfRange e.contentLength e.contentLength) := by
  obtain ⟨e, he⟩ := (reachable_invariant env hs).sync hst r hr
  refine ⟨s.roundManager.currentRoundID_of_head hr, e, he, fun cs ts => ?_⟩
  have := (e.decodeStart r).decodeAll_of_round ⟨r, List.replicate e.contentLength 0, [], []⟩ rfl
    (decodeCalls env r cs ts) (fun op hop => roundID_of_mem_decodeCalls env hop)
  simpa [decodeCalls, DecodeOp.cipher, Function.comp_def] using this

end RelayState

/-! ## Runs on small inputs -/

/-- An environment for runs on small inputs: the counting suite, a cipher
read as its bytes, a zero hash, and a shuffle that the first trustee
completes and every trustee signs at once. -/
def RelayEnv.acceptAll : RelayEnv Unit where
  suite := CryptoSuite.counting
  cipherFromBytes := fun b => ⟨b, []⟩
  sha256 := fun _ => List.replicate 32 0
  sha256_length := fun _ => List.length_replicate _ _
  neffInit := fun _ _ => ()
  neffAddClient := fun _ _ => ()
  neffSendToNextTrustee := fun _ => ((), .ok ([], 0))
  neffReceivedShuffleFromTrustee := fun _ _ _ _ => ((), .ok true)
  neffSendTranscript := fun _ => ((), .ok [])
  neffReceivedSignatureFromTrustee := fun _ _ _ => ((), .ok true)
  neffVerifySigsAndSendToClients := fun _ _ => ((), .ok [])
  computeFinalSchedule := fun _ _ => []
  nextOwnerID := fun _ => 0
  isNextDownstreamRoundForOpenClosedRequest := fun _ _ => false

/-- The setup of a session of one trustee and one client: the parameters
(`StartNow`, a payload of 1 byte, the window and round limit given), the
trustee's key, the client's keys, the shuffle and the signature. -/
def setupMessages (windowSize roundLimit : Int) : List RelayInput :=
  [.allAllParameters ⟨false, [("StartNow", .bool true), ("NTrustees", .int 1), ("NClients", .int 1),
      ("PayloadSize", .int 1), ("WindowSize", .int windowSize),
      ("ExperimentRoundLimit", .int roundLimit)], []⟩,
    .truRelTellPk 0 (some [1]), .cliRelTellPkAndEphPk 0 (some [2]) (some [3]),
    .truRelTellNewBaseAndEphPks [] [some [3]] [] [], .truRelShuffleSig 0 []]

/-- The ciphers of round 0, from client 0 and trustee 0. -/
def roundZeroCiphers : List RelayInput := [.cliRelUpstreamData 0 0 [0], .truRelDcCipher 0 0 [0]]

namespace RelayState

/-- With a window of 2, the first round closes and rounds 1 and 2 are open. -/
theorem reachable_two_open_rounds : ∃ s : RelayState Unit, Reachable RelayEnv.acceptAll () s ∧
    s.state = .communicating ∧ s.roundManager.openRounds = [1, 2] := by
  obtain ⟨s, hrun, hst, ho⟩ : ∃ s, run RelayEnv.acceptAll (init ()) (setupMessages 2 (-1) ++ roundZeroCiphers) = .ok s ∧
      s.state = .communicating ∧ s.roundManager.openRounds = [1, 2] := ⟨_, rfl, rfl, rfl⟩
  exact ⟨s, Reachable.run _ .initial hrun, hst, ho⟩

theorem nonAckedPackets_eq_openRounds_two_rounds : ∃ s : RelayState Unit,
    Reachable RelayEnv.acceptAll () s ∧ s.roundManager.openRounds = [1, 2] ∧
    s.numberOfNonAckedDownstreamPackets = s.roundManager.openRounds.length ∧
    0 ≤ s.numberOfNonAckedDownstreamPackets ∧ s.numberOfNonAckedDownstreamPackets ≤ max 1 s.windowSize :=
  let ⟨s, hs, _, ho⟩ := reachable_two_open_rounds
  ⟨s, hs, ho, nonAckedPackets_eq_openRounds _ hs⟩

/-- A window of 0 is accepted, and the last signature sets the counter to 1. -/
theorem counter_exceeds_zero_window : ∃ s : RelayState Unit, Reachable RelayEnv.acceptAll () s ∧
    s.state = .communicating ∧ s.windowSize = 0 ∧ s.numberOfNonAckedDownstreamPackets = 1 := by
  obtain ⟨s, hrun, h⟩ : ∃ s, run RelayEnv.acceptAll (init ()) (setupMessages 0 (-1)) = .ok s ∧
      s.state = .communicating ∧ s.windowSize = 0 ∧ s.numberOfNonAckedDownstreamPackets = 1 :=
    ⟨_, rfl, rfl, rfl, rfl⟩
  exact ⟨s, Reachable.run _ .initial hrun, h⟩

theorem decoder_in_sync_two_rounds : ∃ s : RelayState Unit, Reachable RelayEnv.acceptAll () s ∧
    s.state = .communicating ∧ s.roundManager.openRounds.head? = some 1 ∧
    s.roundManager.currentRoundID = 1 ∧ ∃ e : DCNetEntity, s.dcNet = some (e.decodeStart 1) :=
  let ⟨s, hs, hst, ho⟩ := reachable_two_open_rounds
  have hr : s.roundManager.openRounds.head? = some 1 := by rw [ho]; rfl
  let ⟨hcur, e, he, _⟩ := decoder_in_sync _ hs hst hr
  ⟨s, hs, hst, hr, hcur, e, he⟩

/-- Trustee 0 tells its key twice to a relay that waits for two trustees: the
relay moves on and sends the clients the parameters with a `nil` key for
trustee 1. -/
theorem repeated_tellPk_skips_trustee {σ : Type} (env : RelayEnv σ) (neff₀ : σ) (pk : Bytes) :
    ∃ s, run env (init neff₀) [.allAllParameters ⟨false, [("StartNow", .bool true),
      ("NTrustees", .int 2), ("NClients", .int 1), ("PayloadSize", .int 1)], []⟩,
      .truRelTellPk 0 (some pk), .truRelTellPk 0 (some pk)] = .ok s ∧
    s.state = .collectingClientPks ∧ (s.trustees.getD 1 ⟨0, false, none, none⟩).publicKey = none ∧
    ∃ m, s.sent.getLast? = some (.client 0, .allAllParameters m) ∧ m.trusteesPks = [some pk, none] :=
  ⟨_, rfl, rfl, rfl, _, rfl, rfl⟩

/-- With a round limit of 0 and a window of 1, the ciphers of round 0 make
the relay shut down and then open round 1: the last three messages it sends
are `ALL_ALL_SHUTDOWN` to the trustee and the client, then
`REL_CLI_DOWNSTREAM_DATA` for round 1. -/
theorem roundLimit_shutdown_then_downstream : ∃ s, run RelayEnv.acceptAll (init ())
    (setupMessages 1 0 ++ roundZeroCiphers) = .ok s ∧
    s.state = .shutdown ∧ s.roundManager.openRounds = [1] ∧
    s.sent.drop (s.sent.length - 3) = [(.trustee 0, .allAllShutdown), (.client 0, .allAllShutdown),
      (.client 0, .relCliDownstreamData ⟨1, 0, List.replicate 32 0, [0], false, false⟩)] :=
  ⟨_, rfl, rfl, rfl, rfl⟩

end RelayState

end Prifi
