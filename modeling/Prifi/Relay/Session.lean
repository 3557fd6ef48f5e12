import Prifi.Relay.Delivery

/-!
# Data rounds, one after another

`Delivery.lean` follows one round of the relay. This module follows a run of
data rounds: no open/closed slots, neither equivocation nor disruption
protection, the round limit behind, and the ciphers of each round arriving,
in any order, before those of the next one.

- `DataRoundsReady` is what holds of the relay between two such rounds, `r`
  the oldest open one: in `COMMUNICATING`, rounds `r`, `r + 1`, … open, one
  packet to acknowledge each and at most `WindowSize` of them, no cipher of
  `r` or later buffered, the decoder at `DecodeStart(r)`;
- `run_dataRound`: one round's ciphers run the round, the relay is ready one
  round further with `WindowSize` rounds open, and the data output gets the
  round's plaintext;
- **`run_dataRounds_delivers`**: over any number of rounds, the data output
  gets the rounds' plaintexts in round order, none lost or repeated, and the
  relay never panics.

The relay runs a round only when a cipher completes its oldest open round,
so the theorem orders the messages round by round: ciphers of a later round
that complete it before the oldest one do not run it until a further cipher
comes (`relay.go:238`).
-/

namespace Prifi

/-- The ciphers of one round: client `i`'s and trustee `j`'s. -/
structure RoundCiphers (N M : Nat) where
  clients : Fin N → Bytes
  trustees : Fin M → Bytes

namespace RoundCiphers

variable {N M : Nat} (c : RoundCiphers N M)

/-- The round's cipher messages for round `r`, in sender order. -/
def messages (r : Int) : List RelayInput := roundMessages r c.clients c.trustees

/-- The round's slices in sender order, clients first, as
`CollectRoundData()` returns them. -/
def slices : List Bytes := List.ofFn c.clients ++ List.ofFn c.trustees

/-- The XOR of the slices' payloads on a cell of `contentLength` zeros: what
the relay decodes. -/
def plaintext {σ : Type} (env : RelayEnv σ) (e : DCNetEntity) : Bytes :=
  (c.slices.map fun b => (env.cipherFromBytes b).payload).foldl xorInto
    (List.replicate e.contentLength 0)

end RoundCiphers

/-- The messages of rounds `r`, `r + 1`, …: each round's cipher messages in
any order, one round after the other. -/
inductive Arrivals {N M : Nat} : Int → List (RoundCiphers N M) → List (List RelayInput) → Prop
  | nil (r : Int) : Arrivals r [] []
  | cons {r : Int} {c : RoundCiphers N M} {cs : List (RoundCiphers N M)} {ms : List RelayInput}
      {mss : List (List RelayInput)} (hms : ms.Perm (c.messages r)) (tail : Arrivals (r + 1) cs mss) :
      Arrivals r (c :: cs) (ms :: mss)

namespace RoundManager

variable (rm : RoundManager)

@[simp] theorem nextRoundToOpen_addInput (m : RelayInput) :
    (rm.addInput m).nextRoundToOpen = rm.nextRoundToOpen := by
  cases m <;> simp [addInput]

@[simp] theorem nextRoundToOpen_foldl_addInput (ms : List RelayInput) :
    (ms.foldl addInput rm).nextRoundToOpen = rm.nextRoundToOpen := by
  induction ms generalizing rm with
  | nil => rfl
  | cons m ms ih => rw [List.foldl_cons, ih, nextRoundToOpen_addInput]

theorem mem_ciphers_addClientCipher (r i : Int) (d : Bytes) {c : Int × Int × Bytes}
    (h : c ∈ (rm.addClientCipher r i d).clientCiphers ++ (rm.addClientCipher r i d).trusteeCiphers) :
    c ∈ rm.clientCiphers ++ rm.trusteeCiphers ∨ c = (r, i, d) := by
  unfold addClientCipher at h
  split_ifs at h
  · exact .inl h
  · simp only [List.mem_append, List.mem_singleton] at h ⊢
    tauto

theorem mem_ciphers_addTrusteeCipher (r i : Int) (d : Bytes) {c : Int × Int × Bytes}
    (h : c ∈ (rm.addTrusteeCipher r i d).clientCiphers ++ (rm.addTrusteeCipher r i d).trusteeCiphers) :
    c ∈ rm.clientCiphers ++ rm.trusteeCiphers ∨ c = (r, i, d) := by
  unfold addTrusteeCipher at h
  split_ifs at h
  · exact .inl h
  · simp only [List.mem_append, List.mem_singleton] at h ⊢
    tauto

/-- Buffering a message adds at most its own cipher. -/
theorem mem_ciphers_addInput (m : RelayInput) {c : Int × Int × Bytes}
    (h : c ∈ (rm.addInput m).clientCiphers ++ (rm.addInput m).trusteeCiphers) :
    c ∈ rm.clientCiphers ++ rm.trusteeCiphers ∨ m.clientCipher = some c ∨ m.trusteeCipher = some c := by
  cases m
  case cliRelUpstreamData i r d =>
    exact (rm.mem_ciphers_addClientCipher r i d h).imp_right fun h => .inl (by rw [h]; rfl)
  case cliRelOpenClosedData i r d =>
    exact (rm.mem_ciphers_addClientCipher r i d h).imp_right fun h => .inl (by rw [h]; rfl)
  case truRelDcCipher i r d =>
    exact (rm.mem_ciphers_addTrusteeCipher r i d h).imp_right fun h => .inr (by rw [h]; rfl)
  all_goals exact .inl h

/-- Buffering messages whose ciphers are of round `r` adds ciphers of round
`r` only. -/
theorem mem_ciphers_foldl_addInput {r : Int} {ms : List RelayInput}
    (hr : ∀ m ∈ ms, ∀ c, m.clientCipher = some c ∨ m.trusteeCipher = some c → c.1 = r)
    {c : Int × Int × Bytes}
    (h : c ∈ (ms.foldl addInput rm).clientCiphers ++ (ms.foldl addInput rm).trusteeCiphers) :
    c ∈ rm.clientCiphers ++ rm.trusteeCiphers ∨ c.1 = r := by
  induction ms generalizing rm with
  | nil => exact .inl h
  | cons m ms ih =>
    rcases ih (rm.addInput m) (fun m' hm' => hr m' (List.mem_cons_of_mem _ hm')) h with h | h
    · exact (mem_ciphers_addInput rm m h).imp_right (hr m (List.mem_cons_self _ _) c)
    · exact .inr h

@[simp] theorem nClients_closeRound : rm.closeRound.nClients = rm.nClients := by
  unfold closeRound; split <;> rfl

@[simp] theorem nTrustees_closeRound : rm.closeRound.nTrustees = rm.nTrustees := by
  unfold closeRound; split <;> rfl

/-- `CloseRound()` of round `r` frees the buffers of `r` and nothing else. -/
theorem ciphers_closeRound {r : Int} {rs : List Int} (h : rm.openRounds = r :: rs) :
    rm.closeRound.clientCiphers ++ rm.closeRound.trusteeCiphers =
      rm.clientCiphers.filter (·.1 ≠ r) ++ rm.trusteeCiphers.filter (·.1 ≠ r) := by
  unfold closeRound; rw [h]

/-- Buffering the messages of round `r` and closing `r` leaves only what was
buffered before. -/
theorem mem_ciphers_closeRound_foldl {r : Int} {rs : List Int} {ms : List RelayInput}
    (hor : (ms.foldl addInput rm).openRounds = r :: rs)
    (hr : ∀ m ∈ ms, ∀ c, m.clientCipher = some c ∨ m.trusteeCipher = some c → c.1 = r)
    {c : Int × Int × Bytes}
    (h : c ∈ (ms.foldl addInput rm).closeRound.clientCiphers ++
      (ms.foldl addInput rm).closeRound.trusteeCiphers) :
    c ∈ rm.clientCiphers ++ rm.trusteeCiphers := by
  rw [ciphers_closeRound _ hor] at h
  simp only [List.mem_append, List.mem_filter, decide_eq_true_eq] at h
  have hmem : c ∈ (ms.foldl addInput rm).clientCiphers ++ (ms.foldl addInput rm).trusteeCiphers := by
    rcases h with h | h
    · exact List.mem_append_left _ h.1
    · exact List.mem_append_right _ h.1
  have hne : c.1 ≠ r := by rcases h with h | h <;> exact h.2
  exact (rm.mem_ciphers_foldl_addInput hr hmem).resolve_right hne

end RoundManager

theorem round_of_mem_roundMessages {N M : Nat} {r : Int} {cs : Fin N → Bytes} {ts : Fin M → Bytes}
    {m : RelayInput} (hm : m ∈ roundMessages r cs ts) (c : Int × Int × Bytes)
    (h : m.clientCipher = some c ∨ m.trusteeCipher = some c) : c.1 = r := by
  simp only [roundMessages, List.mem_append, List.mem_ofFn] at hm
  rcases hm with ⟨i, rfl⟩ | ⟨j, rfl⟩ <;>
    simp only [RelayInput.clientCipher, RelayInput.trusteeCipher, Option.some.injEq] at h <;>
    simp_all [eq_comm]

namespace RelayState

variable {σ : Type} (env : RelayEnv σ)

/-- The relay between two data rounds, `r` the oldest open round and `e` its
DC-net entity: in `COMMUNICATING`, rounds `r`, …, `r + counter - 1` open,
`1 ≤ counter ≤ WindowSize`, `N` clients and `M` trustees, no cipher of `r`
or later buffered, the decoder at `DecodeStart(r)`, no open/closed request
from `r` on, the round limit before `r`, cells of `PayloadSize` bytes, and
neither protection nor open/closed slots. -/
structure DataRoundsReady (e : DCNetEntity) (N M : Nat) (f : RoundFields) (r : Int) : Prop where
  communicating : f.state = .communicating
  counter_pos : 0 < f.counter
  counter_le : f.counter ≤ f.windowSize
  openRounds_eq : f.roundManager.openRounds = roundsFrom r f.counter.toNat
  nextRoundToOpen_eq : f.roundManager.nextRoundToOpen = r + f.counter
  nClients_eq : f.roundManager.nClients = N
  nTrustees_eq : f.roundManager.nTrustees = M
  buffered_lt : ∀ c ∈ f.roundManager.clientCiphers ++ f.roundManager.trusteeCiphers, c.1 < r
  decoder_eq : f.dcNet = some (e.decodeStart r)
  requests_lt : ∀ q ∈ f.openClosedSlotsRequestsRoundID, q < r
  roundLimit_lt : toInt32 f.experimentRoundLimit < r
  contentLength_eq : (e.contentLength : Int) = f.payloadSize
  entity_noEquivocation : e.equivocationProtectionEnabled = false
  entity_noDisruption : e.disruptionProtectionEnabled = false
  noEquivocation : f.equivocationProtectionEnabled = false
  noDisruption : f.disruptionProtectionEnabled = false
  noOpenClosed : f.useOpenClosedSlots = false

/-- **One data round.** From a relay ready at `r`, the round's ciphers in any
order run the round: the relay is ready at `r + 1` with `WindowSize` rounds
open, and the data output gets the round's plaintext. -/
theorem run_dataRound {e : DCNetEntity} {N M : Nat} (hNM : 0 < N + M) {s : RelayState σ} {r : Int}
    (hready : DataRoundsReady e N M s.roundFields r) (c : RoundCiphers N M) {ms : List RelayInput}
    (hms : ms.Perm (c.messages r))
    (hlen : ∀ b ∈ c.slices, (env.cipherFromBytes b).payload.length ≤ e.contentLength)
    (hp : pcapHeaderAt (c.plaintext env e) 0 = false) :
    ∃ s', run env s ms = .ok s' ∧ DataRoundsReady e N M s'.roundFields (r + 1) ∧
      s'.dataFromDCNet = s.dataFromDCNet ++ (if s.dataOutputEnabled then [c.plaintext env e] else []) ∧
      s'.dataOutputEnabled = s.dataOutputEnabled ∧
      s'.numberOfNonAckedDownstreamPackets = s.windowSize ∧ s'.windowSize = s.windowSize := by
  obtain ⟨hst, hcpos, hcle, hor, hnext, hN, hM, hbuf, hdec, hreq, hlim, hsize, heqe, hdise, hseq,
    hsdis, hoc⟩ := hready
  simp only [roundFields] at hst hcpos hcle hor hnext hN hM hbuf hdec hreq hlim hsize hseq hsdis hoc
  set n := s.numberOfNonAckedDownstreamPackets
  have hor' : s.roundManager.openRounds = r :: roundsFrom (r + 1) (n - 1).toNat := by
    rw [hor, show n.toNat = (n - 1).toNat + 1 by omega]; rfl
  obtain ⟨hrun, hcol⟩ := run_roundMessages_buffered env c.clients c.trustees hms hNM hst
    (by rw [hor']; rfl) hN hM fun d hd => (hbuf d hd).ne
  obtain ⟨s', h', hf, hreq'⟩ := upstreamPhase1ProcessCiphers_roundFields env
    (s := { s with roundManager := ms.foldl RoundManager.addInput s.roundManager })
    (by rw [RoundManager.openRounds_foldl_addInput, hor']) hcol hdec heqe hdise hsize hseq hlen
    (fun _ => by simpa only [hsdis, Bool.false_eq_true, if_false] using hp)
  have hnoc : r ∉ s.openClosedSlotsRequestsRoundID := fun h => lt_irrefl r (hreq r h)
  simp only [roundFields, RoundFields.mk.injEq, if_neg hnoc, RoundManager.nextRoundToOpen_foldl_addInput,
    hnext] at hf
  obtain ⟨hst', hrm', hct', hdc', -, hdata', -, hw', hps', heq', hdis', hoc', hlim', hout'⟩ := hf
  -- the rounds open after the round: a full window from `r + 1`
  have hopen : roundsFrom (r + 1) (n - 1).toNat ++ roundsFrom (r + n) (s.windowSize - (n - 1)).toNat =
      roundsFrom (r + 1) (n - 1 + (s.windowSize - (n - 1)).toNat).toNat := by
    rw [show r + n = r + 1 + ((n - 1).toNat : Nat) by omega, roundsFrom_append]
    congr 1; omega
  refine ⟨s', hrun.trans h', ⟨?_, ?_, ?_, ?_, ?_, ?_, ?_, ?_, ?_, ?_, ?_, ?_, heqe, hdise, ?_, ?_, ?_⟩, ?_,
    hout', by rw [hct']; omega, hw'⟩ <;> try dsimp only [roundFields]
  · rw [hst', if_neg hlim.ne', hst]
  · rw [hct']; omega
  · rw [hct', hw']; omega
  · rw [hrm', hct']; exact hopen
  · rw [hrm', hct']; dsimp only; omega
  · rw [hrm', RoundManager.nClients_closeRound, RoundManager.nClients_foldl_addInput, hN]
  · rw [hrm', RoundManager.nTrustees_closeRound, RoundManager.nTrustees_foldl_addInput, hM]
  · intro d hd
    rw [hrm'] at hd
    exact (hbuf d (s.roundManager.mem_ciphers_closeRound_foldl
      (by rw [RoundManager.openRounds_foldl_addInput, hor'])
      (fun m hm => round_of_mem_roundMessages (hms.subset hm)) hd)).trans (Int.lt_succ r)
  · obtain ⟨j, hj⟩ : ∃ j : Nat, (n - 1 + (s.windowSize - (n - 1)).toNat).toNat = j + 1 :=
      ⟨(s.windowSize - 1).toNat, by omega⟩
    rw [hdc', hopen, hj]
    rfl
  · intro q hq
    rw [hreq' hoc] at hq
    exact (hreq q hq).trans (Int.lt_succ r)
  · rw [hlim']; omega
  · rw [hps']; exact hsize
  · rw [heq']; exact hseq
  · rw [hdis']; exact hsdis
  · rw [hoc']; exact hoc
  · rw [hdata', hsdis]
    rfl

/-- The run lemma of data rounds: from a relay ready at `r`, the messages
of the rounds, each round's in any order, run every round; after at least one
round, `WindowSize` packets wait for an acknowledgement. -/
theorem run_dataRounds_of_arrivals {e : DCNetEntity} {N M : Nat} (hNM : 0 < N + M) {s : RelayState σ}
    {r : Int} (hready : DataRoundsReady e N M s.roundFields r) {cs : List (RoundCiphers N M)}
    {mss : List (List RelayInput)} (harr : Arrivals r cs mss)
    (hlen : ∀ c ∈ cs, ∀ b ∈ c.slices, (env.cipherFromBytes b).payload.length ≤ e.contentLength)
    (hpcap : ∀ c ∈ cs, pcapHeaderAt (c.plaintext env e) 0 = false) :
    ∃ s', run env s mss.flatten = .ok s' ∧ DataRoundsReady e N M s'.roundFields (r + cs.length) ∧
      s'.dataFromDCNet =
        s.dataFromDCNet ++ (if s.dataOutputEnabled then cs.map (·.plaintext env e) else []) ∧
      (cs ≠ [] → s'.numberOfNonAckedDownstreamPackets = s.windowSize) ∧ s'.windowSize = s.windowSize := by
  induction harr generalizing s with
  | nil r => exact ⟨s, rfl, by simpa using hready, by simp, fun h => absurd rfl h, rfl⟩
  | @cons r c cs ms mss hms htail ih =>
    obtain ⟨s₁, h₁, hr₁, hd₁, ho₁, hc₁, hw₁⟩ :=
      run_dataRound env hNM hready _ hms (hlen _ (List.mem_cons_self _ _)) (hpcap _ (List.mem_cons_self _ _))
    obtain ⟨s₂, h₂, hr₂, hd₂, hc₂, hw₂⟩ := ih hr₁ (fun c hc => hlen c (List.mem_cons_of_mem _ hc))
      (fun c hc => hpcap c (List.mem_cons_of_mem _ hc))
    refine ⟨s₂, by rw [List.flatten_cons, run_append, h₁]; exact h₂, ?_, ?_, fun _ => ?_, hw₂.trans hw₁⟩
    · rwa [List.length_cons, show r + ((cs.length + 1 : Nat) : Int) = r + 1 + cs.length by omega]
    · rw [hd₂, hd₁, ho₁]
      split_ifs <;> simp
    · -- after the first round the counter is `WindowSize`, and every later round keeps it so
      cases htail with
      | nil => cases h₂; exact hc₁
      | cons => rw [hc₂ (List.cons_ne_nil _ _), hw₁]

/-- **Data rounds, one after another.** From a relay ready at `r`, the
messages of any number of rounds, each round's in any order, each cipher no
longer than the cell and no round's cell a PCAP meta-message: the relay
never panics, is ready after the last round, with `WindowSize` rounds open if
it ran any, and the data output gets the rounds' plaintexts in round
order. -/
theorem run_dataRounds_delivers {e : DCNetEntity} {N M : Nat} (hNM : 0 < N + M) {s : RelayState σ}
    {r : Int} (hready : DataRoundsReady e N M s.roundFields r) {cs : List (RoundCiphers N M)}
    {mss : List (List RelayInput)} (harr : Arrivals r cs mss)
    (hlen : ∀ c ∈ cs, ∀ b ∈ c.slices, (env.cipherFromBytes b).payload.length ≤ e.contentLength)
    (hpcap : ∀ c ∈ cs, pcapHeaderAt (c.plaintext env e) 0 = false) :
    ∃ s', run env s mss.flatten = .ok s' ∧ DataRoundsReady e N M s'.roundFields (r + cs.length) ∧
      (cs ≠ [] → s'.roundManager.openRounds = roundsFrom (r + cs.length) s.windowSize.toNat) ∧
      s'.dataFromDCNet =
        s.dataFromDCNet ++ if s.dataOutputEnabled then cs.map (·.plaintext env e) else [] := by
  obtain ⟨s', h, hready', hdata, hcount, -⟩ := run_dataRounds_of_arrivals env hNM hready harr hlen hpcap
  exact ⟨s', h, hready', fun hne => by simpa only [roundFields, hcount hne] using hready'.openRounds_eq, hdata⟩

/-- The relay's DC-net entity after the setup below: one-byte cells, no
protection. -/
def oneByteRelayEntity : DCNetEntity :=
  { entityID := 0, entity := .relay, equivocationProtectionEnabled := false,
    disruptionProtectionEnabled := false, dcNetMessageSize := 1, dcNetContentSize := 1,
    cryptoSuite := .counting, sharedPRNGs := [], currentRound := 0, dcNetRoundDecoder := none,
    equivocationProtection := [], equivocationContribLength := 0, contentSize_pos := by decide,
    contentSize_eq := rfl, contribLength_eq := rfl, messageSize_of_disruption := nofun }

/-- A relay with its data output on, set up for one trustee and one client
with a window of 2, then rounds 0 and 1, the trustee's cipher first in round
0: the output is `[5] ⊕ [3]`, then `[1] ⊕ [0]`. -/
theorem run_dataRounds_delivers_after_setup : ∃ s₀ s',
    run RelayEnv.acceptAll { init () with dataOutputEnabled := true } (setupMessages 2 (-1)) = .ok s₀ ∧
    run RelayEnv.acceptAll s₀ [.truRelDcCipher 0 0 [5], .cliRelUpstreamData 0 0 [3],
      .cliRelUpstreamData 0 1 [1], .truRelDcCipher 0 1 [0]] = .ok s' ∧
    s'.dataFromDCNet = [[6], [1]] := by
  obtain ⟨s₀, h₀, hready, hdata₀, hout₀⟩ : ∃ s₀, run RelayEnv.acceptAll
      { init () with dataOutputEnabled := true } (setupMessages 2 (-1)) = .ok s₀ ∧
      DataRoundsReady oneByteRelayEntity 1 1 s₀.roundFields 0 ∧ s₀.dataFromDCNet = [] ∧
      s₀.dataOutputEnabled = true :=
    ⟨_, rfl, ⟨rfl, by decide, by decide, rfl, rfl, rfl, rfl, by decide, rfl, by decide, by decide, rfl, rfl,
      rfl, rfl, rfl, rfl⟩, rfl, rfl⟩
  let c₀ : RoundCiphers 1 1 := ⟨fun _ => [3], fun _ => [5]⟩
  let c₁ : RoundCiphers 1 1 := ⟨fun _ => [1], fun _ => [0]⟩
  have harr : Arrivals 0 [c₀, c₁] [[.truRelDcCipher 0 0 [5], .cliRelUpstreamData 0 0 [3]],
      [.cliRelUpstreamData 0 1 [1], .truRelDcCipher 0 1 [0]]] :=
    .cons (List.Perm.swap _ _ _) (.cons (List.Perm.refl _) (.nil _))
  obtain ⟨s', h', -, -, hd⟩ := run_dataRounds_delivers RelayEnv.acceptAll (by decide) hready harr
    (by simp [c₀, c₁, RoundCiphers.slices, RelayEnv.acceptAll, DCNetEntity.contentLength, oneByteRelayEntity])
    (by simp only [List.mem_cons, List.mem_singleton, List.not_mem_nil, or_false, forall_eq_or_imp,
      forall_eq]; decide)
  exact ⟨s₀, s', h₀, h', hd.trans (by rw [hdata₀, hout₀]; decide)⟩

end RelayState

end Prifi
