import Mathlib.Data.List.FinRange
import Mathlib.Data.List.Nodup
import Prifi.Relay.Pcap

/-!
# A round's ciphers, in any order

The relay collects one cipher per client and per trustee for each round and
runs the round when the last one of its oldest open round arrives
(`Received_CLI_REL_UPSTREAM_DATA`, `Received_TRU_REL_DC_CIPHER`). The
ciphers come over independent connections, so they arrive in any order.
This module follows a round from its first cipher to its output, through the
dispatcher of `Machine.lean`:

- `cipherOf_foldl_addInput`: the round manager's buffers after any sequence
  of cipher messages hold, for each round and sender, the first cipher
  received (a later one is dropped), and lose none;
- `run_buffers`: while a cipher of the oldest open round is missing, each
  cipher message only buffers: the relay sends and outputs nothing;
- `run_completes`: the message that completes the round runs
  `upstreamPhase1_processCiphers`;
- **`run_roundMessages_delivers`**: a round whose ciphers arrive in any
  order is decoded into the XOR of its ciphers, taken in sender order;
  a data round hands it (after the `b_echo_last` byte, under disruption
  protection) to the data output, an open/closed round stores the schedule
  computed from it, and the round is closed;
- **`run_roundMessages_panics`**: if one of the ciphers is longer than the
  cell, the cipher that completes the round makes the relay panic in
  `DecodeClient`/`DecodeTrustee`, whatever the order and the protection
  settings.

With ciphers produced by `EncodeForRound`, the XOR is the slot owner's
payload (`RoundTrip.lean`).
-/

namespace Prifi

/-! ## Cipher messages -/

/-- The cipher a message hands to the round manager's client buffer, as
`(round, sender, data)`: `CLI_REL_UPSTREAM_DATA` and `CLI_REL_OPENCLOSED_DATA`
both go there. -/
def RelayInput.clientCipher : RelayInput → Option (Int × Int × Bytes)
  | .cliRelUpstreamData i r d => some (r, i, d)
  | .cliRelOpenClosedData i r d => some (r, i, d)
  | _ => none

/-- The cipher a message hands to the trustee buffer. -/
def RelayInput.trusteeCipher : RelayInput → Option (Int × Int × Bytes)
  | .truRelDcCipher i r d => some (r, i, d)
  | _ => none

/-- The messages of the three cipher handlers. -/
def RelayInput.isCipher (m : RelayInput) : Bool := m.clientCipher.isSome || m.trusteeCipher.isSome

namespace RoundManager

/-- What a cipher handler buffers, before its completion test. -/
def addInput (rm : RoundManager) : RelayInput → RoundManager
  | .cliRelUpstreamData i r d => rm.addClientCipher r i d
  | .cliRelOpenClosedData i r d => rm.addClientCipher r i d
  | .truRelDcCipher i r d => rm.addTrusteeCipher r i d
  | _ => rm

variable (rm : RoundManager)

@[simp] theorem openRounds_addInput (m : RelayInput) : (rm.addInput m).openRounds = rm.openRounds := by
  cases m <;> simp [addInput]

@[simp] theorem nClients_addInput (m : RelayInput) : (rm.addInput m).nClients = rm.nClients := by
  cases m <;> simp only [addInput, addClientCipher, addTrusteeCipher] <;> split_ifs <;> rfl

@[simp] theorem nTrustees_addInput (m : RelayInput) : (rm.addInput m).nTrustees = rm.nTrustees := by
  cases m <;> simp only [addInput, addClientCipher, addTrusteeCipher] <;> split_ifs <;> rfl

@[simp] theorem trusteeCiphers_addClientCipher (r i : Int) (d : Bytes) :
    (rm.addClientCipher r i d).trusteeCiphers = rm.trusteeCiphers := by
  unfold addClientCipher; split <;> rfl

@[simp] theorem clientCiphers_addTrusteeCipher (r i : Int) (d : Bytes) :
    (rm.addTrusteeCipher r i d).clientCiphers = rm.clientCiphers := by
  unfold addTrusteeCipher; split <;> rfl

theorem hasCipher_eq_isSome (buf : List (Int × Int × Bytes)) (r i : Int) :
    hasCipher buf r i = (cipherOf buf r i).isSome := by
  rw [Bool.eq_iff_iff]
  simp [hasCipher, cipherOf, List.any_eq_true, List.find?_isSome]

theorem cipherOf_append (a b : List (Int × Int × Bytes)) (r i : Int) :
    cipherOf (a ++ b) r i = (cipherOf a r i).or (cipherOf b r i) := by
  simp only [cipherOf, List.find?_append, Option.map_or']

theorem cipherOf_cons (c : Int × Int × Bytes) (buf : List (Int × Int × Bytes)) (r i : Int) :
    cipherOf (c :: buf) r i = (cipherOf [c] r i).or (cipherOf buf r i) :=
  cipherOf_append [c] buf r i

/-- The cipher of `(r, i)` in a buffer that holds one, and only one. -/
theorem cipherOf_eq_some {buf : List (Int × Int × Bytes)} {r i : Int} {d : Bytes}
    (hx : (r, i, d) ∈ buf) (hu : ∀ d', (r, i, d') ∈ buf → d' = d) : cipherOf buf r i = some d := by
  have hsome : (buf.find? fun c => c.1 = r ∧ c.2.1 = i).isSome :=
    List.find?_isSome.mpr ⟨(r, i, d), hx, by simp⟩
  obtain ⟨⟨r', i', d'⟩, hc⟩ := Option.isSome_iff_exists.mp hsome
  have hp := List.find?_some hc
  simp only [decide_eq_true_eq] at hp
  obtain ⟨rfl, rfl⟩ := hp
  unfold cipherOf
  rw [hc, Option.map_some', hu d' (List.mem_of_find?_eq_some hc)]

theorem cipherOf_eq_none {buf : List (Int × Int × Bytes)} {r i : Int} (h : ∀ d, (r, i, d) ∉ buf) :
    cipherOf buf r i = none := by
  simp only [cipherOf, Option.map_eq_none', List.find?_eq_none, decide_eq_true_eq, not_and]
  rintro ⟨r', i', d⟩ hc rfl rfl
  exact h d hc

/-- **First write wins**: adding a cipher keeps the one already there for
its round and sender, and otherwise makes it the one there. -/
theorem cipherOf_addClientCipher (r' i' : Int) (d : Bytes) (r i : Int) :
    cipherOf (rm.addClientCipher r' i' d).clientCiphers r i =
      (cipherOf rm.clientCiphers r i).or (cipherOf [(r', i', d)] r i) := by
  unfold addClientCipher
  split
  · by_cases he : r' = r ∧ i' = i
    · obtain ⟨rfl, rfl⟩ := he
      rw [Option.or_of_isSome (by rwa [← hasCipher_eq_isSome])]
    · simp [cipherOf, he]
  · exact cipherOf_append _ _ r i

theorem cipherOf_addTrusteeCipher (r' i' : Int) (d : Bytes) (r i : Int) :
    cipherOf (rm.addTrusteeCipher r' i' d).trusteeCiphers r i =
      (cipherOf rm.trusteeCiphers r i).or (cipherOf [(r', i', d)] r i) := by
  unfold addTrusteeCipher
  split
  · by_cases he : r' = r ∧ i' = i
    · obtain ⟨rfl, rfl⟩ := he
      rw [Option.or_of_isSome (by rwa [← hasCipher_eq_isSome])]
    · simp [cipherOf, he]
  · exact cipherOf_append _ _ r i

/-- **The buffers after any sequence of cipher messages**: for each round and
sender, the cipher already there, else the first one received. -/
theorem cipherOf_foldl_addInput (ms : List RelayInput) (r i : Int) :
    cipherOf (ms.foldl addInput rm).clientCiphers r i =
        (cipherOf rm.clientCiphers r i).or (cipherOf (ms.filterMap RelayInput.clientCipher) r i) ∧
      cipherOf (ms.foldl addInput rm).trusteeCiphers r i =
        (cipherOf rm.trusteeCiphers r i).or (cipherOf (ms.filterMap RelayInput.trusteeCipher) r i) := by
  induction ms generalizing rm with
  | nil => simp [cipherOf]
  | cons m ms ih =>
    rw [List.foldl_cons, (ih _).1, (ih _).2]
    cases m <;>
      simp only [addInput, RelayInput.clientCipher, RelayInput.trusteeCipher, List.filterMap_cons,
        cipherOf_addClientCipher, cipherOf_addTrusteeCipher, trusteeCiphers_addClientCipher,
        clientCiphers_addTrusteeCipher, Option.or_assoc, true_and, and_true] <;>
      rw [cipherOf_cons _ (List.filterMap _ ms)]

@[simp] theorem openRounds_foldl_addInput (ms : List RelayInput) :
    (ms.foldl addInput rm).openRounds = rm.openRounds := by
  induction ms generalizing rm with
  | nil => rfl
  | cons m ms ih => rw [List.foldl_cons, ih, openRounds_addInput]

@[simp] theorem nClients_foldl_addInput (ms : List RelayInput) :
    (ms.foldl addInput rm).nClients = rm.nClients := by
  induction ms generalizing rm with
  | nil => rfl
  | cons m ms ih => rw [List.foldl_cons, ih, nClients_addInput]

@[simp] theorem nTrustees_foldl_addInput (ms : List RelayInput) :
    (ms.foldl addInput rm).nTrustees = rm.nTrustees := by
  induction ms generalizing rm with
  | nil => rfl
  | cons m ms ih => rw [List.foldl_cons, ih, nTrustees_addInput]

@[simp] theorem lastRoundClosed_openNextRound : rm.openNextRound.lastRoundClosed = rm.lastRoundClosed :=
  rfl

@[simp] theorem storedRoundSchedule_openNextRound :
    rm.openNextRound.storedRoundSchedule = rm.storedRoundSchedule := rfl

@[simp] theorem storedRoundSchedule_closeRound :
    rm.closeRound.storedRoundSchedule = rm.storedRoundSchedule := by
  unfold closeRound; split <;> rfl

theorem lastRoundClosed_closeRound {r : Int} (hr : rm.openRounds.head? = some r) :
    rm.closeRound.lastRoundClosed = r := by
  unfold closeRound; split <;> simp_all

/-- `HasAllCiphersForCurrentRound()`, through the buffers' lookups. -/
theorem hasAllCiphersForCurrentRound_iff : rm.hasAllCiphersForCurrentRound = true ↔
    ∃ r, rm.openRounds.head? = some r ∧ (∀ i < rm.nClients, (cipherOf rm.clientCiphers r i).isSome) ∧
      ∀ j < rm.nTrustees, (cipherOf rm.trusteeCiphers r j).isSome := by
  unfold hasAllCiphersForCurrentRound
  split <;> simp_all [List.all_eq_true, hasCipher_eq_isSome]

/-- Buffering never undoes a complete round. -/
theorem hasAllCiphersForCurrentRound_foldl (ms : List RelayInput)
    (h : rm.hasAllCiphersForCurrentRound = true) :
    (ms.foldl addInput rm).hasAllCiphersForCurrentRound = true := by
  obtain ⟨r, hr, hc, ht⟩ := (hasAllCiphersForCurrentRound_iff rm).mp h
  refine (hasAllCiphersForCurrentRound_iff _).mpr ⟨r, by simpa using hr, fun i hi => ?_, fun j hj => ?_⟩
  · rw [(cipherOf_foldl_addInput rm ms r i).1, Option.isSome_or, hc i (by simpa using hi), Bool.true_or]
  · rw [(cipherOf_foldl_addInput rm ms r j).2, Option.isSome_or, ht j (by simpa using hj), Bool.true_or]

end RoundManager

/-! ## A round's messages -/

/-- One cipher for round `r` from each of `N` clients and `M` trustees, in
sender order. -/
def roundMessages {N M : Nat} (r : Int) (cs : Fin N → Bytes) (ts : Fin M → Bytes) :
    List RelayInput :=
  List.ofFn (fun i => RelayInput.cliRelUpstreamData (i : Nat) r (cs i)) ++
    List.ofFn fun j => RelayInput.truRelDcCipher (j : Nat) r (ts j)

section RoundMessages

variable {N M : Nat} (r : Int) (cs : Fin N → Bytes) (ts : Fin M → Bytes)

theorem filterMap_clientCipher_roundMessages :
    (roundMessages r cs ts).filterMap RelayInput.clientCipher =
      List.ofFn fun i => (r, ((i : Nat) : Int), cs i) := by
  simp only [roundMessages, List.filterMap_append, List.ofFn_eq_map, List.filterMap_map]
  rw [show RelayInput.clientCipher ∘ (fun i : Fin N => RelayInput.cliRelUpstreamData (i : Nat) r (cs i)) =
    some ∘ fun i : Fin N => (r, ((i : Nat) : Int), cs i) from rfl, List.filterMap_eq_map]
  simp [Function.comp_def, RelayInput.clientCipher]

theorem filterMap_trusteeCipher_roundMessages :
    (roundMessages r cs ts).filterMap RelayInput.trusteeCipher =
      List.ofFn fun j => (r, ((j : Nat) : Int), ts j) := by
  simp only [roundMessages, List.filterMap_append, List.ofFn_eq_map, List.filterMap_map]
  rw [show RelayInput.trusteeCipher ∘ (fun j : Fin M => RelayInput.truRelDcCipher (j : Nat) r (ts j)) =
    some ∘ fun j : Fin M => (r, ((j : Nat) : Int), ts j) from rfl, List.filterMap_eq_map]
  simp [Function.comp_def, RelayInput.trusteeCipher]

theorem isCipher_of_mem_roundMessages {m : RelayInput} (hm : m ∈ roundMessages r cs ts) :
    m.isCipher = true := by
  simp only [roundMessages, List.mem_append, List.mem_ofFn] at hm
  rcases hm with ⟨i, rfl⟩ | ⟨j, rfl⟩ <;> rfl

end RoundMessages

namespace RoundManager

variable {K : Nat} {buf : List (Int × Int × Bytes)} {r : Int} {xs : Fin K → Bytes}

/-- A buffer that holds, for round `r`, one cipher from each sender `i < K`
in some order gives each sender's cipher. -/
theorem cipherOf_of_perm_ofFn (h : buf.Perm (List.ofFn fun i => (r, ((i : Nat) : Int), xs i)))
    (k : Fin K) : cipherOf buf r k = some (xs k) := by
  refine cipherOf_eq_some ((h.mem_iff).mpr (List.mem_ofFn _ _ |>.mpr ⟨k, rfl⟩)) fun d hd => ?_
  obtain ⟨i, hi⟩ := (List.mem_ofFn _ _).mp ((h.mem_iff).mp hd)
  simp only [Prod.mk.injEq, Int.ofNat_inj, true_and] at hi
  rw [← hi.2, Fin.ext hi.1]

/-- Before the last of them, the sender of the last one has nothing there. -/
theorem cipherOf_of_perm_ofFn_append {c : Int × Int × Bytes}
    (h : (buf ++ [c]).Perm (List.ofFn fun i => (r, ((i : Nat) : Int), xs i))) :
    cipherOf buf r c.2.1 = none := by
  have hnd : ((buf ++ [c]).map (·.2.1)).Nodup := by
    refine ((h.map _).nodup_iff).mpr ?_
    rw [List.map_ofFn]
    exact List.nodup_ofFn.mpr fun a b hab =>
      Fin.ext (Int.ofNat_inj.mp (by simpa [Function.comp_def] using hab))
  refine cipherOf_eq_none fun d hd => ?_
  rw [List.map_append, List.nodup_append] at hnd
  exact hnd.2.2 (List.mem_map_of_mem (·.2.1) hd) (List.mem_singleton_self _)

/-- The ciphers of senders `0 … K-1`, looked up in sender order, as
`CollectRoundData()` reads them. -/
theorem filterMap_range_cipherOf (h : ∀ k : Fin K, cipherOf buf r k = some (xs k)) :
    (List.range K).filterMap (fun i => cipherOf buf r i) = List.ofFn xs := by
  rw [show ((List.range K : List Nat) >>= fun a => pure (a : Int)) = (List.range K).map Nat.cast by
    simp [List.bind_eq_flatMap, List.pure_def, List.map_eq_flatMap]]
  rw [← List.map_coe_finRange, List.map_map, List.filterMap_map, List.ofFn_eq_map,
    ← List.filterMap_eq_map]
  congr 1
  funext k
  exact h k

end RoundManager

/-- The rounds `r`, `r + 1`, …, `r + n - 1`. -/
def roundsFrom (r : Int) : Nat → List Int
  | 0 => []
  | n + 1 => r :: roundsFrom (r + 1) n

theorem roundsFrom_append (r : Int) (a b : Nat) :
    roundsFrom r a ++ roundsFrom (r + a) b = roundsFrom r (a + b) := by
  induction a generalizing r with
  | zero => simp [roundsFrom]
  | succ a ih =>
    rw [Nat.succ_add, show r + ((a + 1 : Nat) : Int) = r + 1 + a by omega]
    simp only [roundsFrom, List.cons_append, ih]

/-- `DecodeStart` overwrites the decoder: it forgets the round before. -/
@[simp] theorem DCNetEntity.decodeStart_withDecoder (e : DCNetEntity) (r q : Int)
    (d : Option DCNetRoundDecoder) :
    DCNetEntity.decodeStart { e.decodeStart r with dcNetRoundDecoder := d } q = e.decodeStart q := rfl

namespace RelayState

variable {σ : Type} (env : RelayEnv σ) {s : RelayState σ}

/-- In `COMMUNICATING`, a cipher message buffers its cipher and runs the
round if that completes it. -/
theorem receivedMessage_of_isCipher (hst : s.state = .communicating) {m : RelayInput}
    (hm : m.isCipher = true) : s.receivedMessage env m =
      (·, none) <$> processIfComplete env { s with roundManager := s.roundManager.addInput m } := by
  cases m <;> simp_all [receivedMessage, RelayInput.handledIn, RelayInput.isCipher,
    RelayInput.clientCipher, RelayInput.trusteeCipher, RoundManager.addInput,
    receivedCliRelUpstreamData, receivedTruRelDcCipher, receivedCliRelOpenClosedData]

/-- **Run lemma**: while the oldest open round lacks a cipher, cipher
messages only fill the buffers. -/
theorem run_buffers {q : List RelayInput} (hq : ∀ m ∈ q, m.isCipher = true)
    (hst : s.state = .communicating)
    (hinc : (q.foldl RoundManager.addInput s.roundManager).hasAllCiphersForCurrentRound = false) :
    run env s q = .ok { s with roundManager := q.foldl RoundManager.addInput s.roundManager } := by
  induction q generalizing s with
  | nil => rfl
  | cons m q ih =>
    have hm : (s.roundManager.addInput m).hasAllCiphersForCurrentRound = false := by
      by_contra h
      rw [List.foldl_cons, RoundManager.hasAllCiphersForCurrentRound_foldl _ q
        (Bool.not_eq_false _ ▸ h)] at hinc
      cases hinc
    rw [run, receivedMessage_of_isCipher env hst (hq m (List.mem_cons_self _ _))]
    simp only [processIfComplete, hm, Bool.false_eq_true, if_false, Functor.map, Except.map, bind,
      Except.bind]
    exact ih (fun m' hm' => hq m' (List.mem_cons_of_mem _ hm')) hst hinc

/-- The message that completes the oldest open round runs it. -/
theorem run_completes {q : List RelayInput} {m : RelayInput} (hq : ∀ m' ∈ q ++ [m], m'.isCipher = true)
    (hst : s.state = .communicating)
    (hinc : (q.foldl RoundManager.addInput s.roundManager).hasAllCiphersForCurrentRound = false)
    (hall : ((q ++ [m]).foldl RoundManager.addInput s.roundManager).hasAllCiphersForCurrentRound = true) :
    run env s (q ++ [m]) = upstreamPhase1ProcessCiphers env
      { s with roundManager := (q ++ [m]).foldl RoundManager.addInput s.roundManager } := by
  rw [run_append, run_buffers env (fun m' h => hq m' (List.mem_append_left _ h)) hst hinc]
  rw [List.foldl_append, List.foldl_cons, List.foldl_nil] at hall ⊢
  have hm := receivedMessage_of_isCipher env
    (s := { s with roundManager := q.foldl RoundManager.addInput s.roundManager }) hst (hq m (by simp))
  simp only [processIfComplete, hall, if_true] at hm
  simp only [bind, Except.bind, run, hm]
  cases upstreamPhase1ProcessCiphers env _ <;> rfl

/-! ## The phases of a complete round -/

/-- The disruption block on a cell that is not empty: it reads the
`b_echo_last` byte and a `BLAME` request, and changes nothing a round's
delivery reads. -/
theorem disruptionCheck_frame {p : Bytes} (hp : p ≠ []) (r : Int) :
    ∃ flags reveal blaming sent lastMessages hash, disruptionCheck env s r p =
      .ok ({ s with
        bEchoFlags := flags, disruptionReveal := reveal, blamingData := blaming, sent := sent,
        lastMessageOfClients := lastMessages, hashOfLastUpstreamMessage := hash },
        if s.disruptionProtectionEnabled then p.drop 1 else p) := by
  obtain ⟨b, p, rfl⟩ := List.exists_cons_of_ne_nil hp
  unfold disruptionCheck
  split
  · simp only [sliceIndex_of_lt (List.length_pos.mpr hp), bind, Except.bind, pure, Except.pure, sendToAll_eq]
    split_ifs <;> exact ⟨_, _, _, _, _, _, rfl⟩
  · exact ⟨_, _, _, _, _, _, rfl⟩

/-- The fields of the relay a round reads or writes, beside the messages it
sends, the queues of downstream data and the disruption-protection history:
the state, the round manager, the packet counter, the DC-net entity, the
open/closed requests, the data output, and the configuration the round
reads. -/
structure RoundFields where
  state : RelayStateName
  roundManager : RoundManager
  counter : Int
  dcNet : Option DCNetEntity
  openClosedSlotsRequestsRoundID : List Int
  dataFromDCNet : List Bytes
  nClients : Int
  windowSize : Int
  payloadSize : Int
  equivocationProtectionEnabled : Bool
  disruptionProtectionEnabled : Bool
  useOpenClosedSlots : Bool
  experimentRoundLimit : Int
  dataOutputEnabled : Bool

/-- The fields of `s` a round reads or writes. -/
def roundFields (s : RelayState σ) : RoundFields :=
  ⟨s.state, s.roundManager, s.numberOfNonAckedDownstreamPackets, s.dcNet,
    s.openClosedSlotsRequestsRoundID, s.dataFromDCNet, s.nClients, s.windowSize, s.payloadSize,
    s.equivocationProtectionEnabled, s.disruptionProtectionEnabled, s.useOpenClosedSlots,
    s.experimentRoundLimit, s.dataOutputEnabled⟩

/-- The end of a data round, on a cell that is not a PCAP meta-message: the
cell goes to the data output if it has the size the relay expects. -/
theorem deliverPayload_roundFields {p : Bytes} (hp : pcapHeaderAt p 0 = false) :
    ∃ s' err, s.deliverPayload p = .ok (s', err) ∧ s'.roundFields = { s.roundFields with
      dataFromDCNet := s.dataFromDCNet ++ (if s.dataOutputEnabled ∧ (p.length : Int) =
        s.payloadSize - (if s.disruptionProtectionEnabled then 1 else 0) -
          (if s.equivocationProtectionEnabled then 16 else 0) then [p] else []) } := by
  have hpat : ¬(if 2 ≤ p.length then some (bigEndian (p.take 2)) else none) = some 21845 := by
    split <;> simp_all [pcapHeaderAt]
  simp only [deliverPayload, hpat, if_false, bind, Except.bind, pure, Except.pure]
  by_cases hsz : (p.length : Int) = s.payloadSize - (if s.disruptionProtectionEnabled then 1 else 0) -
    (if s.equivocationProtectionEnabled then 16 else 0)
  · rw [if_neg (not_not.mpr hsz)]
    exact ⟨_, _, rfl, by cases h : s.dataOutputEnabled <;> simp [roundFields, hsz, h]⟩
  · rw [if_pos hsz]
    exact ⟨_, _, rfl, by simp [roundFields, hsz]⟩

@[simp] theorem roundFields_downstreamCell : s.downstreamCell.2.roundFields = s.roundFields := by
  unfold downstreamCell
  cases s.priorityDataForClients <;> cases s.dataForClients <;> rfl

/-- Opening a round never fails while the relay has its DC-net entity `e`:
the next round opens with one more packet to acknowledge, is an open/closed
request if the scheduler asks for one, and the decoder starts on it if no
round was open. -/
theorem downstreamPhase1OpenRoundAndSendData_roundFields {e : DCNetEntity} (hd : s.dcNet = some e) :
    ∃ s', s.downstreamPhase1OpenRoundAndSendData env = .ok s' ∧ s'.roundFields = { s.roundFields with
      roundManager := s.roundManager.openNextRound,
      counter := s.numberOfNonAckedDownstreamPackets + 1,
      dcNet := some (if s.roundManager.openRounds = [] then
        e.decodeStart s.roundManager.nextRoundToOpen else e),
      openClosedSlotsRequestsRoundID :=
        if s.useOpenClosedSlots && env.isNextDownstreamRoundForOpenClosedRequest s.roundManager s.nClients
        then s.roundManager.nextRoundToOpen :: s.openClosedSlotsRequestsRoundID
        else s.openClosedSlotsRequestsRoundID } := by
  have h₀ := s.roundFields_downstreamCell
  rcases hc : s.downstreamCell with ⟨c, s₀⟩
  rw [hc] at h₀
  simp only [roundFields, RoundFields.mk.injEq] at h₀
  obtain ⟨hst, hrm, hct, hdc, hreq, hdata, hn, hw, hps, heq, hdis, hoc, hlim, hout⟩ := h₀
  simp only [downstreamPhase1OpenRoundAndSendData, hc, decodeStartIfIdle, dcNetEntity, hdc, hd, hrm,
    hn, hoc, hreq, RoundManager.currentRound_fst, ne_eq, ite_not]
  split_ifs <;> simp [roundFields, sendDownstream_eq, bind, Except.bind, pure, Except.pure,
    Functor.map, Except.map, *]

/-- `n` openings: rounds `nextRoundToOpen`, …, `nextRoundToOpen + n - 1`
open with `n` more packets to acknowledge, the decoder starts on the first if
no round was open, and without `UseOpenClosedSlots` no open/closed request is
made. -/
theorem sendManyLoop_roundFields (n : Nat) {e : DCNetEntity} (hd : s.dcNet = some e) :
    ∃ s', sendManyLoop env n s = .ok s' ∧ s'.roundFields = { s.roundFields with
      roundManager := { s.roundManager with
        openRounds := s.roundManager.openRounds ++ roundsFrom s.roundManager.nextRoundToOpen n,
        nextRoundToOpen := s.roundManager.nextRoundToOpen + n },
      counter := s.numberOfNonAckedDownstreamPackets + n,
      dcNet := some (if s.roundManager.openRounds = [] ∧ 0 < n then
        e.decodeStart s.roundManager.nextRoundToOpen else e),
      openClosedSlotsRequestsRoundID := s'.openClosedSlotsRequestsRoundID } ∧
      (s.useOpenClosedSlots = false →
        s'.openClosedSlotsRequestsRoundID = s.openClosedSlotsRequestsRoundID) := by
  induction n generalizing s e with
  | zero => exact ⟨s, rfl, by simp [roundFields, roundsFrom, hd], fun _ => rfl⟩
  | succ n ih =>
    obtain ⟨s₁, h₁, hf₁⟩ := downstreamPhase1OpenRoundAndSendData_roundFields env hd
    simp only [roundFields, RoundFields.mk.injEq] at hf₁
    obtain ⟨hst, hrm, hct, hdc, hreq, hdata, hn, hw, hps, heq, hdis, hoc, hlim, hout⟩ := hf₁
    obtain ⟨s₂, h₂, hf₂, hreq₂⟩ := ih hdc
    refine ⟨s₂, by simp only [sendManyLoop, h₁, bind, Except.bind, h₂], ?_, fun h => ?_⟩
    · rw [hf₂]
      simp [roundFields, hst, hrm, hct, hdata, hn, hw, hps, heq, hdis, hoc, hlim, hout,
        RoundManager.openNextRound, roundsFrom]
      omega
    · rw [hreq₂ (hoc.trans h), hreq, h, Bool.false_and, if_neg Bool.false_ne_true]

/-- Closing the oldest open round `r` never fails while the relay has its
DC-net entity `e`: one packet less, `SHUTDOWN` at the round limit, `r`
closed, and the decoder at `DecodeStart` of the next open round if one is
open. -/
theorem upstreamPhase3FinalizeRound_roundFields {r : Int} {rs : List Int}
    (hr : s.roundManager.openRounds = r :: rs) {e : DCNetEntity} (hd : s.dcNet = some e) :
    ∃ s', s.upstreamPhase3FinalizeRound = .ok s' ∧ s'.roundFields = { s.roundFields with
      state := if r = toInt32 s.experimentRoundLimit then .shutdown else s.state,
      roundManager := s.roundManager.closeRound,
      counter := s.numberOfNonAckedDownstreamPackets - 1,
      dcNet := some (rs.head?.elim e e.decodeStart) } := by
  have hcur : s.roundManager.currentRoundID = r := s.roundManager.currentRoundID_of_head (by simp [hr])
  unfold upstreamPhase3FinalizeRound stopAtRoundLimit
  simp only [hcur]
  split_ifs <;> cases rs <;>
    simp [receivedAllAllShutdown, changeState, sendToAll_eq, decodeStartNextOpen, dcNetEntity, hd,
      RoundManager.closeRound, RoundManager.currentRound, hr, roundFields, Functor.map, Except.map, *]

/-- `DecodeStart(r)` and the round's decode calls, equivocation protection
off: the accumulator holds the XOR of the slices, in call order. -/
theorem decodeAll_decodeCalls {e : DCNetEntity} (heq : e.equivocationProtectionEnabled = false)
    (r : Int) {cs ts : List Bytes}
    (hlen : ∀ c ∈ cs ++ ts, (env.cipherFromBytes c).payload.length ≤ e.contentLength) :
    (e.decodeStart r).decodeAll (decodeCalls env r cs ts) = .ok { e.decodeStart r with
      dcNetRoundDecoder := some ⟨r, ((cs ++ ts).map fun c => (env.cipherFromBytes c).payload).foldl
        xorInto (List.replicate e.contentLength 0), [], []⟩ } := by
  rw [(e.decodeStart r).decodeAll_eq heq ⟨r, List.replicate e.contentLength 0, [], []⟩ rfl _
    (fun op hop => roundID_of_mem_decodeCalls env hop) fun op hop => ?_]
  · simp [decodeCalls, DecodeOp.cipher, Function.comp_def]
  · simp only [decodeCalls, List.mem_append, List.mem_map] at hop
    rcases hop with ⟨c, hc, rfl⟩ | ⟨c, hc, rfl⟩ <;> simpa using hlen c (by simp [hc])

/-- One slice longer than the cell panics the decode calls of a round. -/
theorem decodeAll_decodeCalls_of_long {e : DCNetEntity} (r : Int) {cs ts : List Bytes}
    (hlong : ∃ c ∈ cs ++ ts, e.contentLength < (env.cipherFromBytes c).payload.length) :
    (e.decodeStart r).decodeAll (decodeCalls env r cs ts) =
      .error (indexOutOfRange e.contentLength e.contentLength) := by
  obtain ⟨c, hc, hl⟩ := hlong
  have hop : ∃ op ∈ decodeCalls env r cs ts, e.contentLength < op.cipher.payload.length := by
    rcases List.mem_append.mp hc with hc | hc
    · exact ⟨_, List.mem_append_left _ (List.mem_map_of_mem _ hc), hl⟩
    · exact ⟨_, List.mem_append_right _ (List.mem_map_of_mem _ hc), hl⟩
  simpa using (e.decodeStart r).decodeAll_of_long ⟨r, List.replicate e.contentLength 0, [], []⟩ rfl
    (decodeCalls env r cs ts) (fun op hop => roundID_of_mem_decodeCalls env hop) (by simpa using hop)

/-- The decoder after a round's XOR `x`, disruption protection off in the
entity: `DecodeCell()` returns `x`. -/
theorem decodeCell_decodeStart_xor {e : DCNetEntity} (hdis : e.disruptionProtectionEnabled = false)
    {r : Int} {x : Bytes} :
    DCNetEntity.decodeCell { e.decodeStart r with dcNetRoundDecoder := some ⟨r, x, [], []⟩ } = .ok x := by
  simp [DCNetEntity.decodeCell, DCNetEntity.decodeStart, hdis]

/-- **A data round's decode**: with the decoder at `DecodeStart(r)` and the
round's slices `cs`, `ts`, `upstreamPhase2b_extractPayload` decodes the XOR
of the slices and hands it, without its `b_echo_last` byte under disruption
protection, to the data output. -/
theorem upstreamPhase2bExtractPayload_delivers {e : DCNetEntity} {r : Int} {cs ts : List Bytes}
    (hcur : s.roundManager.currentRoundID = r) (hcol : s.roundManager.collectRoundData = (cs, ts))
    (hdec : s.dcNet = some (e.decodeStart r)) (heq : e.equivocationProtectionEnabled = false)
    (hdis : e.disruptionProtectionEnabled = false) (hsize : (e.contentLength : Int) = s.payloadSize)
    (hseq : s.equivocationProtectionEnabled = false)
    (hlen : ∀ c ∈ cs ++ ts, (env.cipherFromBytes c).payload.length ≤ e.contentLength) :
    let x := ((cs ++ ts).map fun c => (env.cipherFromBytes c).payload).foldl xorInto
      (List.replicate e.contentLength 0)
    let p := if s.disruptionProtectionEnabled then x.drop 1 else x
    pcapHeaderAt p 0 = false → ∃ s' err, upstreamPhase2bExtractPayload env s = .ok (s', err) ∧
      s'.roundFields = { s.roundFields with
        dcNet := some { e.decodeStart r with dcNetRoundDecoder := some ⟨r, x, [], []⟩ },
        dataFromDCNet := s.dataFromDCNet ++ if s.dataOutputEnabled then [p] else [] } := by
  intro x p hp
  have hx : x ≠ [] := by
    rw [← List.length_pos]
    simpa [x, DCNetEntity.contentLength] using e.contentSize_pos
  set s₁ : RelayState σ :=
    { s with dcNet := some { e.decodeStart r with dcNetRoundDecoder := some ⟨r, x, [], []⟩ } }
  have hboth : (s.equivocationProtectionEnabled && s.disruptionProtectionEnabled) = false := by
    simp [hseq]
  have h2b : upstreamPhase2bExtractPayload env s =
      disruptionCheck env s₁ r x >>= fun q => q.1.deliverPayload q.2 := by
    simp only [upstreamPhase2bExtractPayload, hcur, hcol, dcNetEntity, hdec, bind, Except.bind]
    rw [decodeAll_decodeCalls env heq r hlen]
    simp only [decodeCell_decodeStart_xor hdis, hboth, Bool.false_eq_true, if_false]
  obtain ⟨a, b, c, d, f, g, hdc⟩ := disruptionCheck_frame env (s := s₁) hx r
  obtain ⟨s', err, hdp, hout⟩ := deliverPayload_roundFields (s := { s₁ with
    bEchoFlags := a, disruptionReveal := b, blamingData := c, sent := d, lastMessageOfClients := f,
    hashOfLastUpstreamMessage := g }) hp
  rw [h2b, hdc]
  refine ⟨s', err, hdp, hout.trans ?_⟩
  have hxl : (x.length : Int) = s.payloadSize := by simp [x, ← hsize]
  cases hd : s.disruptionProtectionEnabled <;> simp only [p, hd, if_true, if_false] at hp ⊢
  · simp [roundFields, s₁, hseq, hd, hxl]
  · have : ((x.length - 1 : Nat) : Int) = s.payloadSize - 1 - 0 := by
      have := List.length_pos.mpr hx; omega
    simp [roundFields, s₁, hseq, hd, this]

/-- **An open/closed round's decode**: `upstreamPhase2a_extractOCMap` stores
the schedule computed from the XOR of the round's slices. -/
theorem upstreamPhase2aExtractOCMap_schedules {e : DCNetEntity} {r : Int} {cs ts : List Bytes}
    (hcol : s.roundManager.collectRoundData = (cs, ts)) (hdec : s.dcNet = some (e.decodeStart r))
    (heq : e.equivocationProtectionEnabled = false) (hdis : e.disruptionProtectionEnabled = false)
    (hlen : ∀ c ∈ cs ++ ts, (env.cipherFromBytes c).payload.length ≤ e.contentLength) :
    let x := ((cs ++ ts).map fun c => (env.cipherFromBytes c).payload).foldl xorInto
      (List.replicate e.contentLength 0)
    ∃ s' err, upstreamPhase2aExtractOCMap env s r = .ok (s', err) ∧
      s'.roundFields = { s.roundFields with
        roundManager := s.roundManager.setStoredRoundSchedule (env.computeFinalSchedule x s.nClients),
        dcNet := some { e.decodeStart r with dcNetRoundDecoder := some ⟨r, x, [], []⟩ } } := by
  simp only [upstreamPhase2aExtractOCMap, hcol, dcNetEntity, hdec, bind, Except.bind]
  rw [decodeAll_decodeCalls env heq r hlen]
  simp only [decodeCell_decodeStart_xor hdis, pure, Except.pure]
  exact ⟨_, _, rfl, rfl⟩

/-- **A complete round**, from `DecodeStart(r)` of its oldest open round `r`
with the round's slices `cs`, `ts` buffered: an open/closed round stores the
schedule computed from the XOR `x` of the slices, a data round hands `x`
(without its `b_echo_last` byte under disruption protection) to the data
output; then `r` is closed, the relay stops at the round limit, and rounds
are opened until `WindowSize` packets are unacknowledged, with the decoder at
`DecodeStart` of the oldest open round. -/
theorem upstreamPhase1ProcessCiphers_roundFields {e : DCNetEntity} {r : Int} {rs : List Int}
    {cs ts : List Bytes} (hor : s.roundManager.openRounds = r :: rs)
    (hcol : s.roundManager.collectRoundData = (cs, ts))
    (hdec : s.dcNet = some (e.decodeStart r)) (heq : e.equivocationProtectionEnabled = false)
    (hdis : e.disruptionProtectionEnabled = false) (hsize : (e.contentLength : Int) = s.payloadSize)
    (hseq : s.equivocationProtectionEnabled = false)
    (hlen : ∀ c ∈ cs ++ ts, (env.cipherFromBytes c).payload.length ≤ e.contentLength) :
    let x := ((cs ++ ts).map fun c => (env.cipherFromBytes c).payload).foldl xorInto
      (List.replicate e.contentLength 0)
    let p := if s.disruptionProtectionEnabled then x.drop 1 else x
    let k := (s.windowSize - (s.numberOfNonAckedDownstreamPackets - 1)).toNat
    let opened := rs ++ roundsFrom s.roundManager.nextRoundToOpen k
    (r ∉ s.openClosedSlotsRequestsRoundID → pcapHeaderAt p 0 = false) →
    ∃ s', upstreamPhase1ProcessCiphers env s = .ok s' ∧ s'.roundFields = { s.roundFields with
      state := if r = toInt32 s.experimentRoundLimit then .shutdown else s.state,
      roundManager := { (if r ∈ s.openClosedSlotsRequestsRoundID then
          s.roundManager.setStoredRoundSchedule (env.computeFinalSchedule x s.nClients)
        else s.roundManager).closeRound with
        openRounds := opened, nextRoundToOpen := s.roundManager.nextRoundToOpen + k },
      counter := s.numberOfNonAckedDownstreamPackets - 1 + k,
      dcNet := some (opened.head?.elim
        { e.decodeStart r with dcNetRoundDecoder := some ⟨r, x, [], []⟩ } e.decodeStart),
      openClosedSlotsRequestsRoundID := s'.openClosedSlotsRequestsRoundID,
      dataFromDCNet := if r ∈ s.openClosedSlotsRequestsRoundID then s.dataFromDCNet
        else s.dataFromDCNet ++ if s.dataOutputEnabled then [p] else [] } ∧
      (s.useOpenClosedSlots = false →
        s'.openClosedSlotsRequestsRoundID = s.openClosedSlotsRequestsRoundID) := by
  intro x p k opened hp
  have hcur : s.roundManager.currentRoundID = r := s.roundManager.currentRoundID_of_head (by simp [hor])
  set E : DCNetEntity := { e.decodeStart r with dcNetRoundDecoder := some ⟨r, x, [], []⟩ }
  obtain ⟨s₂, err, h₂, hf₂⟩ : ∃ s₂ err, upstreamPhase2ExtractRound env s r = .ok (s₂, err) ∧
      s₂.roundFields = { s.roundFields with
        roundManager := if r ∈ s.openClosedSlotsRequestsRoundID then
          s.roundManager.setStoredRoundSchedule (env.computeFinalSchedule x s.nClients)
          else s.roundManager,
        dcNet := some E,
        dataFromDCNet := if r ∈ s.openClosedSlotsRequestsRoundID then s.dataFromDCNet
          else s.dataFromDCNet ++ if s.dataOutputEnabled then [p] else [] } := by
    unfold upstreamPhase2ExtractRound
    by_cases hoc : r ∈ s.openClosedSlotsRequestsRoundID
    · simpa only [if_pos hoc] using upstreamPhase2aExtractOCMap_schedules env hcol hdec heq hdis hlen
    · simpa only [if_neg hoc] using
        upstreamPhase2bExtractPayload_delivers env hcur hcol hdec heq hdis hsize hseq hlen (hp hoc)
  simp only [roundFields, RoundFields.mk.injEq] at hf₂
  obtain ⟨hst₂, hrm₂, hct₂, hdc₂, hreq₂, hdata₂, hn₂, hw₂, hps₂, heq₂, hdis₂, hoc₂, hlim₂, hout₂⟩ := hf₂
  have hor₂ : s₂.roundManager.openRounds = r :: rs := by rw [hrm₂]; split_ifs <;> simp [hor]
  have hnext₂ : s₂.roundManager.nextRoundToOpen = s.roundManager.nextRoundToOpen := by
    rw [hrm₂]; split_ifs <;> rfl
  obtain ⟨s₃, h₃, hf₃⟩ := upstreamPhase3FinalizeRound_roundFields hor₂ hdc₂
  simp only [roundFields, RoundFields.mk.injEq] at hf₃
  obtain ⟨hst₃, hrm₃, hct₃, hdc₃, hreq₃, hdata₃, hn₃, hw₃, hps₃, heq₃, hdis₃, hoc₃, hlim₃, hout₃⟩ := hf₃
  obtain ⟨s₄, h₄, hf₄, hreq₄⟩ := sendManyLoop_roundFields env
    (s₃.windowSize - s₃.numberOfNonAckedDownstreamPackets).toNat hdc₃
  refine ⟨s₄, by simp [upstreamPhase1ProcessCiphers, hcur, h₂, h₃, downstreamPhaseSendMany, h₄, bind,
    Except.bind], ?_, fun h => (hreq₄ (hoc₃.trans (hoc₂.trans h))).trans (hreq₃.trans hreq₂)⟩
  have hk : (s₃.windowSize - s₃.numberOfNonAckedDownstreamPackets).toNat = k := by
    rw [hw₃, hct₃, hw₂, hct₂]
  -- the decoder: at the oldest round left open, else at the first one opened
  have hdcNet : (if s₃.roundManager.openRounds = [] ∧ 0 < k then
      (rs.head?.elim E E.decodeStart).decodeStart s₃.roundManager.nextRoundToOpen
      else rs.head?.elim E E.decodeStart) = opened.head?.elim E e.decodeStart := by
    rw [hrm₃, RoundManager.openRounds_closeRound, hor₂, List.tail_cons,
      RoundManager.nextRoundToOpen_closeRound, hnext₂]
    simp only [opened]
    generalize k = j
    cases rs <;> cases j <;> simp [roundsFrom, E]
  rw [hf₄, hk, hdcNet]
  simp only [roundFields, RoundFields.mk.injEq, hst₃, hrm₃, hct₃, hdata₃, hn₃, hw₃, hps₃, heq₃,
    hdis₃, hoc₃, hlim₃, hout₃, hst₂, hrm₂, hct₂, hdata₂, hn₂, hw₂, hps₂, heq₂, hdis₂, hoc₂, hlim₂,
    hout₂, true_and, and_true]
  split_ifs <;> simp [hor, opened]

/-- **A cipher longer than the cell panics the round**:
`upstreamPhase1_processCiphers` of the current round `r`, with the decoder
at `DecodeStart(r)`, stops at the slice index of `DecodeClient` or
`DecodeTrustee`, on an open/closed round as on a data round, whatever the
protection settings. -/
theorem upstreamPhase1ProcessCiphers_of_long {e : DCNetEntity} {r : Int} {cs ts : List Bytes}
    (hcur : s.roundManager.currentRoundID = r) (hcol : s.roundManager.collectRoundData = (cs, ts))
    (hdec : s.dcNet = some (e.decodeStart r))
    (hlong : ∃ c ∈ cs ++ ts, e.contentLength < (env.cipherFromBytes c).payload.length) :
    upstreamPhase1ProcessCiphers env s = .error (indexOutOfRange e.contentLength e.contentLength) := by
  have hpanic := decodeAll_decodeCalls_of_long env r hlong
  have h2 : upstreamPhase2ExtractRound env s r = .error (indexOutOfRange e.contentLength e.contentLength) := by
    unfold upstreamPhase2ExtractRound
    split_ifs
    · simp only [upstreamPhase2aExtractOCMap, hcol, dcNetEntity, hdec, bind, Except.bind, hpanic]
    · simp only [upstreamPhase2bExtractPayload, hcur, hcol, dcNetEntity, hdec, bind, Except.bind, hpanic]
  simp only [upstreamPhase1ProcessCiphers, hcur, h2, bind, Except.bind]

/-- A round's ciphers, in any order, with `r` the oldest open round and no
cipher of `r` buffered yet: the relay buffers all but the last, and the last
runs `upstreamPhase1_processCiphers` on the round's slices in sender order. -/
theorem run_roundMessages_buffered {N M : Nat} {r : Int} (cs : Fin N → Bytes) (ts : Fin M → Bytes)
    {ms : List RelayInput} (hms : ms.Perm (roundMessages r cs ts)) (hNM : 0 < N + M)
    (hst : s.state = .communicating) (hhead : s.roundManager.openRounds.head? = some r)
    (hN : s.roundManager.nClients = N) (hM : s.roundManager.nTrustees = M)
    (hfresh : ∀ c ∈ s.roundManager.clientCiphers ++ s.roundManager.trusteeCiphers, c.1 ≠ r) :
    run env s ms = upstreamPhase1ProcessCiphers env
        { s with roundManager := ms.foldl RoundManager.addInput s.roundManager } ∧
      (ms.foldl RoundManager.addInput s.roundManager).collectRoundData =
        (List.ofFn cs, List.ofFn ts) := by
  obtain ⟨q, m, rfl⟩ : ∃ q m, ms = q ++ [m] := by
    rcases List.eq_nil_or_concat ms with h | ⟨q, m, h⟩
    · subst h; have := hms.length_eq; simp [roundMessages] at this; omega
    · exact ⟨q, m, by simpa using h⟩
  have hcip : ∀ m' ∈ q ++ [m], m'.isCipher := fun m' h => isCipher_of_mem_roundMessages r cs ts (hms.subset h)
  have hcl : ((q ++ [m]).filterMap RelayInput.clientCipher).Perm
      (List.ofFn fun i => (r, ((i : Nat) : Int), cs i)) := by
    rw [← filterMap_clientCipher_roundMessages r cs ts]; exact hms.filterMap _
  have htl : ((q ++ [m]).filterMap RelayInput.trusteeCipher).Perm
      (List.ofFn fun j => (r, ((j : Nat) : Int), ts j)) := by
    rw [← filterMap_trusteeCipher_roundMessages r cs ts]; exact hms.filterMap _
  have hnone : ∀ k : Int, RoundManager.cipherOf s.roundManager.clientCiphers r k = none ∧
      RoundManager.cipherOf s.roundManager.trusteeCiphers r k = none := fun k =>
    ⟨RoundManager.cipherOf_eq_none fun d hd => hfresh _ (List.mem_append_left _ hd) rfl,
      RoundManager.cipherOf_eq_none fun d hd => hfresh _ (List.mem_append_right _ hd) rfl⟩
  -- after all the messages, every sender's cipher is in
  have hcc : ∀ k : Fin N, RoundManager.cipherOf
      ((q ++ [m]).foldl RoundManager.addInput s.roundManager).clientCiphers r k = some (cs k) := by
    intro k
    rw [(RoundManager.cipherOf_foldl_addInput _ _ r k).1, (hnone k).1, Option.none_or]
    exact RoundManager.cipherOf_of_perm_ofFn hcl k
  have htt : ∀ k : Fin M, RoundManager.cipherOf
      ((q ++ [m]).foldl RoundManager.addInput s.roundManager).trusteeCiphers r k = some (ts k) := by
    intro k
    rw [(RoundManager.cipherOf_foldl_addInput _ _ r k).2, (hnone k).2, Option.none_or]
    exact RoundManager.cipherOf_of_perm_ofFn htl k
  have hall : ((q ++ [m]).foldl RoundManager.addInput s.roundManager).hasAllCiphersForCurrentRound := by
    refine (RoundManager.hasAllCiphersForCurrentRound_iff _).mpr ⟨r, by simpa using hhead, ?_, ?_⟩
    · intro i hi
      rw [RoundManager.nClients_foldl_addInput, hN] at hi
      simpa using congrArg Option.isSome (hcc ⟨i, hi⟩)
    · intro j hj
      rw [RoundManager.nTrustees_foldl_addInput, hM] at hj
      simpa using congrArg Option.isSome (htt ⟨j, hj⟩)
  -- before the last one, its sender's cipher is missing
  have hinc : (q.foldl RoundManager.addInput s.roundManager).hasAllCiphersForCurrentRound = false := by
    rw [Bool.eq_false_iff]
    intro h
    obtain ⟨r', hr', hc', ht'⟩ := (RoundManager.hasAllCiphersForCurrentRound_iff _).mp h
    rw [RoundManager.openRounds_foldl_addInput, hhead, Option.some.injEq] at hr'
    subst hr'
    have hm : m ∈ roundMessages r cs ts := hms.subset (by simp)
    simp only [roundMessages, List.mem_append, List.mem_ofFn] at hm
    rcases hm with ⟨i, rfl⟩ | ⟨j, rfl⟩
    · have := hc' i (by rw [RoundManager.nClients_foldl_addInput, hN]; exact i.2)
      rw [(RoundManager.cipherOf_foldl_addInput _ _ r i).1, (hnone i).1, Option.none_or,
        RoundManager.cipherOf_of_perm_ofFn_append (c := (r, (i : Nat), cs i))
          (by simpa [RelayInput.clientCipher] using hcl)] at this
      cases this
    · have := ht' j (by rw [RoundManager.nTrustees_foldl_addInput, hM]; exact j.2)
      rw [(RoundManager.cipherOf_foldl_addInput _ _ r j).2, (hnone j).2, Option.none_or,
        RoundManager.cipherOf_of_perm_ofFn_append (c := (r, (j : Nat), ts j))
          (by simpa [RelayInput.trusteeCipher] using htl)] at this
      cases this
  have hcol : ((q ++ [m]).foldl RoundManager.addInput s.roundManager).collectRoundData =
      (List.ofFn cs, List.ofFn ts) := by
    have hcur : ((q ++ [m]).foldl RoundManager.addInput s.roundManager).currentRoundID = r :=
      RoundManager.currentRoundID_of_head _ (by rw [RoundManager.openRounds_foldl_addInput]; exact hhead)
    unfold RoundManager.collectRoundData
    rw [hcur, RoundManager.nClients_foldl_addInput, RoundManager.nTrustees_foldl_addInput, hN, hM,
      RoundManager.filterMap_range_cipherOf hcc, RoundManager.filterMap_range_cipherOf htt]
  exact ⟨run_completes env hcip hst hinc hall, hcol⟩

/-- **A round's ciphers, in any order.** In `COMMUNICATING`, with round `r`
the oldest open one, the decoder at `DecodeStart(r)` and no cipher of `r`
buffered yet, let the ciphers of client `i < N` and trustee `j < M` for `r`
arrive in any order. The relay buffers all but the last and then runs the
round: it closes `r`, and decodes the XOR of the ciphers taken in sender
order; an open/closed round stores the schedule computed from it, a data
round hands it to the data output (without its `b_echo_last` byte under
disruption protection), unless it is a PCAP meta-message. -/
theorem run_roundMessages_delivers {N M : Nat} {r : Int} (cs : Fin N → Bytes) (ts : Fin M → Bytes)
    {ms : List RelayInput} (hms : ms.Perm (roundMessages r cs ts)) (hNM : 0 < N + M)
    (hst : s.state = .communicating) (hhead : s.roundManager.openRounds.head? = some r)
    (hN : s.roundManager.nClients = N) (hM : s.roundManager.nTrustees = M)
    (hfresh : ∀ c ∈ s.roundManager.clientCiphers ++ s.roundManager.trusteeCiphers, c.1 ≠ r)
    {e : DCNetEntity} (hdec : s.dcNet = some (e.decodeStart r))
    (heq : e.equivocationProtectionEnabled = false) (hdis : e.disruptionProtectionEnabled = false)
    (hsize : (e.contentLength : Int) = s.payloadSize) (hseq : s.equivocationProtectionEnabled = false)
    (hlen : ∀ c ∈ List.ofFn cs ++ List.ofFn ts, (env.cipherFromBytes c).payload.length ≤ e.contentLength) :
    let x := ((List.ofFn cs ++ List.ofFn ts).map fun c => (env.cipherFromBytes c).payload).foldl
      xorInto (List.replicate e.contentLength 0)
    let p := if s.disruptionProtectionEnabled then x.drop 1 else x
    (r ∉ s.openClosedSlotsRequestsRoundID → pcapHeaderAt p 0 = false) →
    ∃ s', run env s ms = .ok s' ∧ s'.roundManager.lastRoundClosed = r ∧
      if r ∈ s.openClosedSlotsRequestsRoundID then
        s'.roundManager.storedRoundSchedule = env.computeFinalSchedule x s.nClients ∧
          s'.dataFromDCNet = s.dataFromDCNet
      else s'.dataFromDCNet = s.dataFromDCNet ++ if s.dataOutputEnabled then [p] else [] := by
  intro x p hp
  obtain ⟨hrun, hcol⟩ := run_roundMessages_buffered env cs ts hms hNM hst hhead hN hM hfresh
  obtain ⟨rs, hor⟩ := List.head?_eq_some_iff.mp hhead
  obtain ⟨s', h', hf, -⟩ := upstreamPhase1ProcessCiphers_roundFields env
    (s := { s with roundManager := ms.foldl RoundManager.addInput s.roundManager })
    (by rw [RoundManager.openRounds_foldl_addInput, hor]) hcol hdec heq hdis hsize hseq hlen hp
  have hrm := congrArg RoundFields.roundManager hf
  have hdata := congrArg RoundFields.dataFromDCNet hf
  simp only [roundFields] at hrm hdata
  refine ⟨s', hrun.trans h', ?_⟩
  rw [hrm, hdata]
  have hlast : ∀ rm : RoundManager, rm.openRounds = r :: rs → rm.closeRound.lastRoundClosed = r :=
    fun rm h => rm.lastRoundClosed_closeRound (by rw [h]; rfl)
  by_cases hoc : r ∈ s.openClosedSlotsRequestsRoundID
  · simp only [if_pos hoc]
    refine ⟨hlast _ (by simp [hor]), ?_, trivial⟩
    simp only [RoundManager.storedRoundSchedule_closeRound]
    rfl
  · simp only [if_neg hoc]
    exact ⟨hlast _ (by simp [hor]), trivial⟩

/-- The relay's DC-net entity of the runs below: two-byte cells, no
protection. -/
def twoByteRelayEntity : DCNetEntity :=
  { entityID := 0, entity := .relay, equivocationProtectionEnabled := false,
    disruptionProtectionEnabled := false, dcNetMessageSize := 2, dcNetContentSize := 2,
    cryptoSuite := .counting, sharedPRNGs := [], currentRound := 0, dcNetRoundDecoder := none,
    equivocationProtection := [], equivocationContribLength := 0, contentSize_pos := by decide,
    contentSize_eq := rfl, contribLength_eq := rfl, messageSize_of_disruption := nofun }

/-- A relay of one client and one trustee waiting for the ciphers of round
0, with the data output on. -/
def roundZeroRelay : RelayState Unit :=
  { init () with
    state := .communicating, payloadSize := 2, dataOutputEnabled := true,
    roundManager := ⟨1, 1, [0], 1, -1, [], [], []⟩,
    dcNet := some (twoByteRelayEntity.decodeStart 0) }

/-- The trustee's cipher `[0, 1]` arrives before the client's `[7, 1]`: the
relay outputs `[7, 0]` and closes round 0. -/
theorem run_roundMessages_delivers_reordered :
    ∃ s', run RelayEnv.acceptAll roundZeroRelay
      [.truRelDcCipher 0 0 [0, 1], .cliRelUpstreamData 0 0 [7, 1]] = .ok s' ∧
      s'.roundManager.lastRoundClosed = 0 ∧ s'.dataFromDCNet = [[7, 0]] := by
  have hms : [RelayInput.truRelDcCipher 0 0 [0, 1], .cliRelUpstreamData 0 0 [7, 1]].Perm
      (roundMessages 0 (fun _ : Fin 1 => [7, 1]) fun _ : Fin 1 => [0, 1]) := List.Perm.swap _ _ _
  obtain ⟨s', hrun, hclosed, hout⟩ := run_roundMessages_delivers RelayEnv.acceptAll
    (s := roundZeroRelay) (e := twoByteRelayEntity) (fun _ : Fin 1 => [7, 1]) (fun _ : Fin 1 => [0, 1])
    hms (by decide) rfl rfl rfl rfl
    (by decide) rfl rfl rfl rfl rfl (by decide) (fun _ => by decide)
  exact ⟨s', hrun, hclosed, by simpa using hout⟩

/-- **A cipher longer than the cell panics the relay.** In the setting of
`run_roundMessages_delivers`, under any protection settings, let one of the
round's ciphers carry a payload longer than the cell: whatever the order of
arrival, the cipher that completes the round makes the relay panic at the
slice index of `DecodeClient` or `DecodeTrustee`, which XOR every byte of the
payload into the cell-sized buffer. -/
theorem run_roundMessages_panics {N M : Nat} {r : Int} (cs : Fin N → Bytes) (ts : Fin M → Bytes)
    {ms : List RelayInput} (hms : ms.Perm (roundMessages r cs ts)) (hNM : 0 < N + M)
    (hst : s.state = .communicating) (hhead : s.roundManager.openRounds.head? = some r)
    (hN : s.roundManager.nClients = N) (hM : s.roundManager.nTrustees = M)
    (hfresh : ∀ c ∈ s.roundManager.clientCiphers ++ s.roundManager.trusteeCiphers, c.1 ≠ r)
    {e : DCNetEntity} (hdec : s.dcNet = some (e.decodeStart r))
    (hlong : ∃ c ∈ List.ofFn cs ++ List.ofFn ts, e.contentLength < (env.cipherFromBytes c).payload.length) :
    run env s ms = .error (indexOutOfRange e.contentLength e.contentLength) := by
  obtain ⟨hrun, hcol⟩ := run_roundMessages_buffered env cs ts hms hNM hst hhead hN hM hfresh
  rw [hrun]
  exact upstreamPhase1ProcessCiphers_of_long env (RoundManager.currentRoundID_of_head _
    (by rw [RoundManager.openRounds_foldl_addInput]; exact hhead)) hcol hdec hlong

/-- The client's cipher `[7, 1, 2]` is a byte longer than the cell: the
trustee's cipher completes the round, and the relay panics. -/
theorem run_roundMessages_panics_long_client :
    run RelayEnv.acceptAll roundZeroRelay [.cliRelUpstreamData 0 0 [7, 1, 2], .truRelDcCipher 0 0 [0, 1]] =
      .error "runtime error: index out of range [2] with length 2" :=
  (run_roundMessages_panics RelayEnv.acceptAll (s := roundZeroRelay) (e := twoByteRelayEntity)
    (fun _ : Fin 1 => [7, 1, 2]) (fun _ : Fin 1 => [0, 1]) (List.Perm.refl _) (by decide) rfl rfl rfl rfl
    (by decide) rfl ⟨[7, 1, 2], by decide, by decide⟩).trans rfl

end RelayState

end Prifi
