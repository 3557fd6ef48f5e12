import Prifi.Bytes

/-!
# The DC-net entity (`dcnet.go`)

A faithful model of `DCNetEntity` (`src/unnamed/part_002`): construction
(`NewDCNetEntity`), the client and trustee encoders behind
`EncodeForRound`, and the relay's round decoder (`DecodeStart`,
`DecodeClient`, `DecodeTrustee`, `DecodeCell`).

What the model takes from outside the source:

- `CryptoSuite`: the keystream cipher the shared keys seed, HMAC-SHA256
  (with its 32-byte output), and the operations of the equivocation
  protector (`equivocation.go` is not in the source). The spec places all
  of them behind abstract interfaces (§1, §4.2).
- `DCNetCipher.ToBytes` / `DCNetCipherFromBytes` are not in the source
  either: ciphers travel as `DCNetCipher` values, i.e. the codec is taken
  to round-trip.

A peer PRNG is a keystream with a read position (`Prng`); every read of
`n` bytes moves the position by `n`. The entity record carries the facts
`NewDCNetEntity` checks (a positive content size, 32 spare bytes under
disruption protection) as fields, so no later proof re-derives them.
-/

namespace Prifi

/-- The crypto primitives the DC-net reaches through `config.CryptoSuite`
and the equivocation protector. -/
structure CryptoSuite where
  /-- `Cipher(nil).KeySize()`. -/
  keySize : Nat
  /-- `Cipher(key)`: the keystream a key seeds. -/
  cipher : Bytes → Nat → UInt8
  /-- `hmac.New(sha256.New, key)`, `Write(msg)`, `Sum(nil)`. -/
  hmacSha256 : Bytes → Bytes → Bytes
  hmacSha256_length : ∀ key msg, (hmacSha256 key msg).length = 32
  /-- `len(minusOne.Bytes())`, the size of one equivocation scalar. -/
  scalarLength : Nat
  /-- `NewEquivocation()`'s initial history. -/
  initialHistory : Bytes
  /-- `UpdateHistory(newData)`. -/
  updateHistory : Bytes → Bytes → Bytes
  /-- `ClientEncryptPayload(slotOwner, payload, p_ij)` at a history. -/
  clientEncryptPayload : Bytes → Bool → Bytes → List Bytes → Bytes × Bytes
  /-- `TrusteeGetContribution(p_ij)`. -/
  trusteeGetContribution : List Bytes → Bytes
  /-- `RelayDecode(xorBuffer, trusteeContribs, clientContribs)` at a history. -/
  relayDecode : Bytes → Bytes → List Bytes → List Bytes → Bytes

/-- A suite to evaluate the model on small inputs: every key seeds the
keystream `k ↦ k mod 256`, the HMAC is 32 zero bytes, and the equivocation
protector does nothing. -/
def CryptoSuite.counting : CryptoSuite where
  keySize := 0
  cipher := fun _ k => k.toUInt8
  hmacSha256 := fun _ _ => List.replicate 32 0
  hmacSha256_length := fun _ _ => List.length_replicate _ _
  scalarLength := 0
  initialHistory := []
  updateHistory := fun h _ => h
  clientEncryptPayload := fun _ _ p _ => (p, [])
  trusteeGetContribution := fun _ => []
  relayDecode := fun _ b _ _ => b

/-- `DCNET_ENTITY`: `DCNET_CLIENT`, `DCNET_TRUSTEE`, `DCNET_RELAY`. -/
inductive DCNetEntityType
  | client
  | trustee
  | relay
  deriving DecidableEq, Repr

/-- `DISRUPTION_PROTECTION_CONTRIB_LENGTH`. -/
def disruptionProtectionContribLength : Nat := 32

/-! ## Peer PRNGs -/

/-- An `abstract.Cipher` used as a keystream: the stream and the number of
bytes already read from it. -/
structure Prng where
  keystream : Nat → UInt8
  position : Nat

/-- Keystream bytes `[a, a + n)`. -/
def keystreamBytes (ks : Nat → UInt8) (a n : Nat) : Bytes :=
  (List.range n).map fun k => ks (a + k)

/-- `XORKeyStream(dst, src)`: `src` XOR the next `len(src)` keystream bytes. -/
def Prng.xorKeyStream (g : Prng) (src : Bytes) : Bytes × Prng :=
  (xorInto src (keystreamBytes g.keystream g.position src.length),
    { g with position := g.position + src.length })

@[simp] theorem length_keystreamBytes (ks : Nat → UInt8) (a n : Nat) :
    (keystreamBytes ks a n).length = n := by
  simp [keystreamBytes]

/-- The PRNG after `n` more bytes were read. -/
def Prng.advance (g : Prng) (n : Nat) : Prng := { g with position := g.position + n }

@[simp] theorem Prng.advance_keystream (g : Prng) (n : Nat) : (g.advance n).keystream = g.keystream := rfl

@[simp] theorem Prng.advance_position (g : Prng) (n : Nat) :
    (g.advance n).position = g.position + n := rfl

theorem Prng.advance_advance (g : Prng) (m n : Nat) : (g.advance m).advance n = g.advance (m + n) := by
  simp [Prng.advance, Nat.add_assoc]

/-- On a zero buffer, `XORKeyStream` reads the keystream. -/
@[simp] theorem Prng.xorKeyStream_zeros (g : Prng) (n : Nat) :
    g.xorKeyStream (List.replicate n 0) =
      (keystreamBytes g.keystream g.position n, g.advance n) := by
  have h := xorInto_replicate_zero (keystreamBytes g.keystream g.position n)
  rw [length_keystreamBytes] at h
  simp [Prng.xorKeyStream, Prng.advance, h]

/-- `NewDCNetEntity`'s seeding: `key := make(keySize)`,
`sharedKey.Partial(key, key, nil)`, then `Cipher(key)`, read from the start. -/
def seedPrng (suite : CryptoSuite) (sharedKey : Prng) : Prng :=
  { keystream := suite.cipher (sharedKey.xorKeyStream (List.replicate suite.keySize 0)).1,
    position := 0 }

/-! ## Ciphers, the round decoder and the entity -/

/-- `DCNetCipher`. -/
structure DCNetCipher where
  payload : Bytes
  equivocationProtectionTag : Bytes

/-- `DCNetRoundDecoder`. -/
structure DCNetRoundDecoder where
  currentRoundBeingDecoded : Int
  xorBuffer : Bytes
  equivTrusteeContribs : List Bytes
  equivClientContribs : List Bytes

/-- The equivocation tag length `NewDCNetEntity` reserves. -/
def equivocationContrib (suite : CryptoSuite) (equivocationProtection : Bool) : Int :=
  if equivocationProtection then suite.scalarLength else 0

/-- `DCNetEntity`, with the invariants `NewDCNetEntity` establishes. Go's
`int32` round counter is an `Int`: it only moves up to a requested round,
so it never wraps. `sharedKeys` is left out (only stored, never read);
`equivocationProtection` holds the protector's history. -/
structure DCNetEntity where
  entityID : Int
  entity : DCNetEntityType
  equivocationProtectionEnabled : Bool
  disruptionProtectionEnabled : Bool
  dcNetMessageSize : Int
  dcNetContentSize : Int
  cryptoSuite : CryptoSuite
  sharedPRNGs : List Prng
  currentRound : Int
  dcNetRoundDecoder : Option DCNetRoundDecoder
  equivocationProtection : Bytes
  equivocationContribLength : Int
  contentSize_pos : 0 < dcNetContentSize
  contentSize_eq : dcNetContentSize = dcNetMessageSize - equivocationContribLength
  contribLength_eq : equivocationContribLength =
    equivocationContrib cryptoSuite equivocationProtectionEnabled
  messageSize_of_disruption : disruptionProtectionEnabled = true → 32 < dcNetMessageSize

/-- `NewDCNetEntity` (`dcnet.go:56`). The relay gets no PRNGs. -/
def newDCNetEntity (suite : CryptoSuite) (entityID : Int) (entity : DCNetEntityType)
    (dcNetMessageSize : Int) (equivocationProtection disruptionProtection : Bool)
    (sharedKeys : List Prng) : Except String DCNetEntity :=
  if hd : disruptionProtection = true ∧ dcNetMessageSize ≤ 32 then
    .error ("DCNetMessageSize too small (" ++ toString dcNetMessageSize ++ ")")
  else
    if hc : dcNetMessageSize - equivocationContrib suite equivocationProtection ≤ 0 then
      .error ("DCNet: with those options, the payload length is" ++
        toString (dcNetMessageSize - equivocationContrib suite equivocationProtection))
    else
      .ok { entityID, entity,
            equivocationProtectionEnabled := equivocationProtection,
            disruptionProtectionEnabled := disruptionProtection,
            dcNetMessageSize,
            dcNetContentSize := dcNetMessageSize - equivocationContrib suite equivocationProtection,
            cryptoSuite := suite,
            sharedPRNGs := if entity ≠ .relay then sharedKeys.map (seedPrng suite) else [],
            currentRound := 0,
            dcNetRoundDecoder := none,
            equivocationProtection := suite.initialHistory,
            equivocationContribLength := equivocationContrib suite equivocationProtection,
            contentSize_pos := by omega,
            contentSize_eq := rfl,
            contribLength_eq := rfl,
            messageSize_of_disruption := fun h => by
              by_contra h'
              exact hd ⟨h, by omega⟩ }

/-- What `NewDCNetEntity` built, when it did not panic. -/
theorem newDCNetEntity_ok {suite : CryptoSuite} {i : Int} {ent : DCNetEntityType} {size : Int}
    {eqp dis : Bool} {keys : List Prng} {e : DCNetEntity}
    (h : newDCNetEntity suite i ent size eqp dis keys = .ok e) :
    e.entityID = i ∧ e.entity = ent ∧ e.equivocationProtectionEnabled = eqp ∧
      e.disruptionProtectionEnabled = dis ∧ e.dcNetMessageSize = size ∧ e.cryptoSuite = suite ∧
      e.sharedPRNGs = (if ent ≠ .relay then keys.map (seedPrng suite) else []) ∧
      e.currentRound = 0 ∧ e.dcNetRoundDecoder = none := by
  unfold newDCNetEntity at h
  by_cases hd : dis = true ∧ size ≤ 32
  · rw [dif_pos hd] at h; cases h
  rw [dif_neg hd] at h
  by_cases hc : size - equivocationContrib suite eqp ≤ 0
  · rw [dif_pos hc] at h; cases h
  rw [dif_neg hc] at h
  cases h
  simp

namespace DCNetEntity

variable (e : DCNetEntity)

/-- The content size as a length. -/
def contentLength : Nat := e.dcNetContentSize.toNat

theorem contentLength_cast : (e.contentLength : Int) = e.dcNetContentSize := by
  have := e.contentSize_pos
  simp [contentLength]; omega

/-- `GetPayloadSize`: what a slot owner may embed. -/
def getPayloadSize : Int :=
  if e.disruptionProtectionEnabled then
    e.dcNetContentSize - disruptionProtectionContribLength
  else e.dcNetContentSize

/-- `computeHmac256(clientID, message)`, keyed by the hard-coded
`"secret-client-<id>"`. -/
def computeHmac256 (clientID : Int) (message : Bytes) : Bytes :=
  e.cryptoSuite.hmacSha256 ("secret-client-" ++ toString clientID).toUTF8.toList message

/-- One turn of the skip loop of `EncodeForRound`: every PRNG drops
`DCNetContentSize` bytes, and `currentRound++`. -/
def discardRound : DCNetEntity :=
  { e with
    sharedPRNGs := e.sharedPRNGs.map fun g =>
      (g.xorKeyStream (List.replicate e.contentLength 0)).2
    currentRound := e.currentRound + 1 }

/-- `for e.currentRound < roundID { ... }`, run `n` times. -/
def discardRounds : DCNetEntity → Nat → DCNetEntity
  | e, 0 => e
  | e, n + 1 => discardRounds e.discardRound n

/-- The pads of one cell (`p_ij`): `DCNetContentSize` keystream bytes from
every PRNG, and the PRNGs after the read. -/
def preparePads : List Bytes × List Prng :=
  (e.sharedPRNGs.map fun g => (g.xorKeyStream (List.replicate e.contentLength 0)).1,
    e.sharedPRNGs.map fun g => (g.xorKeyStream (List.replicate e.contentLength 0)).2)

end DCNetEntity

/-- The DC-net loop `for i := range p_ij { for k := range c.payload {
c.payload[k] ^= p_ij[i][k] } }`: a pad shorter than the payload panics. -/
def xorPads : Bytes → List Bytes → Except String Bytes
  | payload, [] => .ok payload
  | payload, p :: ps =>
    if p.length < payload.length then .error (indexOutOfRange p.length p.length)
    else xorPads (xorInto payload p) ps

namespace DCNetEntity

variable (e : DCNetEntity)

/-- The plaintext cell of `clientEncode` before any padding with pads: a
`nil` payload becomes `DCNetContentSize` zeros; otherwise the payload is
cloned into `GetPayloadSize` bytes, with the HMAC in front for a slot owner
under disruption protection. The HMAC is taken over `c.payload`, still
`nil` at that point. -/
def clientPayload (slotOwner : Bool) : Option Bytes → Except String Bytes
  | none => makeBytes e.dcNetContentSize
  | some payload => do
    let payload2 ← copyPrefix (← makeBytes e.getPayloadSize) payload
    if slotOwner && e.disruptionProtectionEnabled then
      pure (e.computeHmac256 e.entityID [] ++ payload2)
    else pure payload2

/-- `clientEncode` (`dcnet.go:177`). -/
def clientEncode (slotOwner : Bool) (payload : Option Bytes) :
    Except String (DCNetCipher × DCNetEntity) := do
  let payload ← e.clientPayload slotOwner payload
  let (pads, prngs) := e.preparePads
  let (payload, tag) :=
    if e.equivocationProtectionEnabled then
      e.cryptoSuite.clientEncryptPayload e.equivocationProtection slotOwner payload pads
    else (payload, [])
  let payload ← xorPads payload pads
  pure (⟨payload, tag⟩, { e with sharedPRNGs := prngs })

/-- `trusteeEncode` (`dcnet.go:220`): the pads XORed into zeros. -/
def trusteeEncode : Except String (DCNetCipher × DCNetEntity) := do
  let (pads, prngs) := e.preparePads
  let payload ← xorPads (List.replicate e.contentLength 0) pads
  let tag := if e.equivocationProtectionEnabled then
      e.cryptoSuite.trusteeGetContribution pads else []
  pure (⟨payload, tag⟩, { e with sharedPRNGs := prngs })

/-- `EncodeForRound` (`dcnet.go:131`): the two panics, the skip loop, then
the client or trustee encoder. -/
def encodeForRound (roundID : Int) (slotOwner : Bool) (payload : Option Bytes) :
    Except String (DCNetCipher × DCNetEntity) :=
  let n : Int := (payload.getD []).length
  if e.dcNetContentSize < n then
    .error ("DCNet: cannot encode payload of length " ++ toString n ++
      " max length is " ++ toString n)
  else if roundID < e.currentRound then
    .error ("DCNet: asked to encode for round " ++ toString roundID ++
      " but we are at  round " ++ toString e.currentRound)
  else
    let e' := e.discardRounds (roundID - e.currentRound).toNat
    if e'.entity = .client then e'.clientEncode slotOwner payload else e'.trusteeEncode

/-- `UpdateReceivedMessageHistory`. -/
def updateReceivedMessageHistory (newData : Bytes) : DCNetEntity :=
  if e.equivocationProtectionEnabled then
    { e with equivocationProtection :=
        e.cryptoSuite.updateHistory e.equivocationProtection newData }
  else e

/-! ## The relay's round decoder -/

/-- `DecodeStart(roundID)`: a fresh accumulator of `DCNetContentSize` zeros. -/
def decodeStart (roundID : Int) : DCNetEntity :=
  { e with dcNetRoundDecoder := some ⟨roundID, List.replicate e.contentLength 0, [], []⟩ }

/-- The common body of `DecodeClient` and `DecodeTrustee`: the round check
(whose panic text both share), the XOR loop over the cipher, and the
append of the equivocation tag to one of the two lists. -/
def decodeCipher (appendTag : DCNetRoundDecoder → Bytes → DCNetRoundDecoder)
    (roundID : Int) (c : DCNetCipher) : Except String DCNetEntity :=
  match e.dcNetRoundDecoder with
  | none => .error nilPointerDereference
  | some d =>
    if roundID ≠ d.currentRoundBeingDecoded then
      .error ("Cannot DecodeClient for round" ++ toString roundID ++ ", we are in round " ++
        toString d.currentRoundBeingDecoded)
    else if d.xorBuffer.length < c.payload.length then
      .error (indexOutOfRange d.xorBuffer.length d.xorBuffer.length)
    else
      let d := { d with xorBuffer := xorInto d.xorBuffer c.payload }
      let d := if e.equivocationProtectionEnabled then appendTag d c.equivocationProtectionTag
        else d
      .ok { e with dcNetRoundDecoder := some d }

/-- `DecodeClient` (`dcnet.go:258`). -/
def decodeClient (roundID : Int) (c : DCNetCipher) : Except String DCNetEntity :=
  e.decodeCipher (fun d t => { d with equivClientContribs := d.equivClientContribs ++ [t] })
    roundID c

/-- `DecodeTrustee` (`dcnet.go:277`). -/
def decodeTrustee (roundID : Int) (c : DCNetCipher) : Except String DCNetEntity :=
  e.decodeCipher (fun d t => { d with equivTrusteeContribs := d.equivTrusteeContribs ++ [t] })
    roundID c

/-- `DecodeCell` (`dcnet.go:296`). Under disruption protection the first 32
bytes (the HMAC) are cut off; otherwise the raw `xorBuffer` is returned,
also when equivocation protection decoded it into something else. -/
def decodeCell : Except String Bytes :=
  match e.dcNetRoundDecoder with
  | none => .error nilPointerDereference
  | some d =>
    let decoded := if e.equivocationProtectionEnabled then
        e.cryptoSuite.relayDecode e.equivocationProtection d.xorBuffer d.equivTrusteeContribs
          d.equivClientContribs
      else d.xorBuffer
    if e.disruptionProtectionEnabled then
      if decoded.length < disruptionProtectionContribLength then
        .error (sliceBoundsOutOfRange disruptionProtectionContribLength decoded.length)
      else .ok (decoded.drop disruptionProtectionContribLength)
    else .ok d.xorBuffer

/-! ## One equation per operation -/

@[simp] theorem contentLength_mk_sharedPRNGs (g : List Prng) (r : Int) :
    ({ e with sharedPRNGs := g, currentRound := r } : DCNetEntity).contentLength = e.contentLength :=
  rfl

theorem preparePads_eq : e.preparePads =
    (e.sharedPRNGs.map fun g => keystreamBytes g.keystream g.position e.contentLength,
      e.sharedPRNGs.map (·.advance e.contentLength)) := by
  simp [preparePads]

theorem discardRound_eq : e.discardRound =
    { e with sharedPRNGs := e.sharedPRNGs.map (·.advance e.contentLength),
             currentRound := e.currentRound + 1 } := by
  simp [discardRound]

/-- The skip loop run `n` times reads `n * DCNetContentSize` bytes from every
PRNG and moves the round counter by `n`. -/
theorem discardRounds_eq (n : Nat) : e.discardRounds n =
    { e with sharedPRNGs := e.sharedPRNGs.map (·.advance (n * e.contentLength)),
             currentRound := e.currentRound + n } := by
  induction n generalizing e with
  | zero => simp [discardRounds, Prng.advance]
  | succ n ih =>
    rw [discardRounds, ih, discardRound_eq]
    simp only [contentLength_mk_sharedPRNGs, List.map_map, Function.comp_def,
      Prng.advance_advance, Nat.succ_mul, Nat.add_comm (n * _)]
    congr 1; push_cast; omega

end DCNetEntity

theorem xorPads_of_le {payload : Bytes} {pads : List Bytes}
    (h : ∀ p ∈ pads, payload.length ≤ p.length) :
    xorPads payload pads = .ok (pads.foldl xorInto payload) := by
  induction pads generalizing payload with
  | nil => rfl
  | cons p ps ih =>
    simp only [List.mem_cons, forall_eq_or_imp] at h
    simp only [xorPads, not_lt.mpr h.1, if_false, List.foldl_cons]
    exact ih fun q hq => by simpa using h.2 q hq

theorem xorPads_ok {payload x : Bytes} {pads : List Bytes} (h : xorPads payload pads = .ok x) :
    x = pads.foldl xorInto payload := by
  induction pads generalizing payload with
  | nil => cases h; rfl
  | cons p ps ih =>
    simp only [xorPads] at h
    split at h
    · cases h
    · exact ih h

namespace DCNetEntity

variable (e : DCNetEntity)

theorem mem_pads_length {p : Bytes} (hp : p ∈ e.preparePads.1) : p.length = e.contentLength := by
  rw [preparePads_eq] at hp
  obtain ⟨g, -, rfl⟩ := List.mem_map.mp hp
  simp

/-- Both encoders leave the entity with every PRNG `DCNetContentSize` bytes
further on. -/
theorem clientEncode_entity {o : Bool} {p : Option Bytes} {c : DCNetCipher} {e' : DCNetEntity}
    (h : e.clientEncode o p = .ok (c, e')) :
    e' = { e with sharedPRNGs := e.sharedPRNGs.map (·.advance e.contentLength) } := by
  simp only [clientEncode, preparePads_eq] at h
  obtain ⟨_, -, h⟩ := except_bind_eq_ok.mp h
  obtain ⟨_, -, h⟩ := except_bind_eq_ok.mp h
  cases h; rfl

theorem trusteeEncode_entity {c : DCNetCipher} {e' : DCNetEntity}
    (h : e.trusteeEncode = .ok (c, e')) :
    e' = { e with sharedPRNGs := e.sharedPRNGs.map (·.advance e.contentLength) } := by
  simp only [trusteeEncode, preparePads_eq] at h
  obtain ⟨_, -, h⟩ := except_bind_eq_ok.mp h
  cases h; rfl

theorem getPayloadSize_nonneg (he : e.equivocationProtectionEnabled = false) :
    0 ≤ e.getPayloadSize := by
  have h1 := e.contentSize_eq; have h2 := e.contribLength_eq
  have h3 := e.messageSize_of_disruption; have h4 := e.contentSize_pos
  simp only [he, equivocationContrib] at h2
  unfold getPayloadSize disruptionProtectionContribLength
  split <;> simp_all <;> omega

theorem computeHmac256_length (i : Int) (m : Bytes) : (e.computeHmac256 i m).length = 32 :=
  e.cryptoSuite.hmacSha256_length _ _

theorem clientPayload_none (o : Bool) :
    e.clientPayload o none = .ok (List.replicate e.contentLength 0) :=
  makeBytes_of_nonneg e.contentSize_pos.le

/-- A payload that fits in `GetPayloadSize` is zero-padded to it, behind the
HMAC for a slot owner under disruption protection. -/
theorem clientPayload_some {o : Bool} {p : Bytes} (hg : 0 ≤ e.getPayloadSize)
    (hp : (p.length : Int) ≤ e.getPayloadSize) :
    e.clientPayload o (some p) =
      .ok ((if o && e.disruptionProtectionEnabled then e.computeHmac256 e.entityID [] else []) ++
        (p ++ List.replicate (e.getPayloadSize.toNat - p.length) 0)) := by
  have hle : p.length ≤ (List.replicate e.getPayloadSize.toNat (0 : UInt8)).length := by
    simp; omega
  simp only [clientPayload, makeBytes_of_nonneg hg, bind, Except.bind, copyPrefix_of_le hle,
    List.drop_replicate]
  split <;> simp_all [pure, Except.pure]

/-- A longer payload panics at `payload2[0:len(payload)]`. -/
theorem clientPayload_some_panic {o : Bool} {p : Bytes} (hg : 0 ≤ e.getPayloadSize)
    (hp : e.getPayloadSize < p.length) :
    e.clientPayload o (some p) =
      .error (sliceBoundsOutOfRange p.length e.getPayloadSize.toNat) := by
  have hlt : e.getPayloadSize.toNat < p.length := by omega
  simp [clientPayload, makeBytes_of_nonneg hg, bind, Except.bind, copyPrefix, hlt]

/-- Without equivocation protection, `clientEncode` is the plaintext cell
XOR every pad, provided the cell fits in a pad. -/
theorem clientEncode_eq {o : Bool} {p : Option Bytes} {pl : Bytes}
    (he : e.equivocationProtectionEnabled = false) (hpl : e.clientPayload o p = .ok pl)
    (hlen : pl.length ≤ e.contentLength) :
    e.clientEncode o p = .ok (⟨e.preparePads.1.foldl xorInto pl, []⟩,
      { e with sharedPRNGs := e.preparePads.2 }) := by
  have hx : xorPads pl e.preparePads.1 = .ok (e.preparePads.1.foldl xorInto pl) :=
    xorPads_of_le fun q hq => by rw [e.mem_pads_length hq]; exact hlen
  simp only [clientEncode, hpl, he, bind, Except.bind, Bool.false_eq_true, if_false, hx]
  rfl

theorem trusteeEncode_eq (he : e.equivocationProtectionEnabled = false) :
    e.trusteeEncode = .ok (⟨e.preparePads.1.foldl xorInto (List.replicate e.contentLength 0), []⟩,
      { e with sharedPRNGs := e.preparePads.2 }) := by
  have hx : xorPads (List.replicate e.contentLength 0) e.preparePads.1 =
      .ok (e.preparePads.1.foldl xorInto (List.replicate e.contentLength 0)) :=
    xorPads_of_le fun q hq => by rw [e.mem_pads_length hq]; simp
  simp only [trusteeEncode, he, bind, Except.bind, Bool.false_eq_true, if_false, hx]
  rfl

/-- **What a successful `EncodeForRound` does to the entity**: the round was
not in the past; the skip loop and the encoder together read
`(roundID - currentRound + 1) * DCNetContentSize` bytes from every PRNG;
the round counter ends at `roundID`, not past it. -/
theorem encodeForRound_entity {r : Int} {o : Bool} {p : Option Bytes} {c : DCNetCipher}
    {e' : DCNetEntity} (h : e.encodeForRound r o p = .ok (c, e')) :
    e.currentRound ≤ r ∧
      e' = { e with sharedPRNGs := e.sharedPRNGs.map (fun g =>
                      g.advance (((r - e.currentRound).toNat + 1) * e.contentLength)),
                    currentRound := r } := by
  simp only [encodeForRound] at h
  split at h
  · cases h
  split at h
  · cases h
  have hr : e.currentRound ≤ r := by omega
  refine ⟨hr, ?_⟩
  have hn : e.currentRound + ((r - e.currentRound).toNat : Int) = r := by omega
  split at h
  all_goals
    first
    | rw [clientEncode_entity _ h, discardRounds_eq]
    | rw [trusteeEncode_entity _ h, discardRounds_eq]
    simp only [contentLength_mk_sharedPRNGs, List.map_map, Function.comp_def,
      Prng.advance_advance, hn, Nat.succ_mul]

end DCNetEntity

end Prifi
