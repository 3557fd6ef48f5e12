import Prifi.DCNet.Encode

/-!
# The DC-net round trip

With equivocation protection off, `N` clients and `M` trustees whose pairwise
keys seed the same keystreams, and a common history of encoded rounds, the
relay's decode of one round returns exactly the slot owner's payload
(zero-padded to `GetPayloadSize()`), or the zero cell if no client owned the
round — whatever the order in which the relay absorbs the ciphers.

The proof is the pad-cancellation argument, in layers:

- `decodeAll_eq`: the relay's accumulator after any sequence of
  `DecodeClient`/`DecodeTrustee` calls for the round it decodes is the fold of
  the ciphers into zeros; `foldl_xorInto_perm` makes the order irrelevant,
  and `decodeAll_of_long` says that one cipher longer than the accumulator
  panics instead.
- `foldl_xorInto_pads_cancel`: for any `N × M` table of pads, the client
  cells (plaintext XOR their row of pads) and the trustee cells (zeros XOR
  their column) XOR to the XOR of the plaintexts — every pad occurs twice.
- `EncodeRun.entity_eq` (run lemma, `Keystream.lean`): peers with the same
  history of round ids stand at the same keystream position, so client `i`'s
  pad for trustee `j` is trustee `j`'s pad for client `i`.
- `decodeCell_roundTrip`: the assembled statement.
-/

namespace Prifi

/-- One call the relay makes while it collects a round:
`DecodeClient(roundID, c)` or `DecodeTrustee(roundID, c)`. -/
inductive DecodeOp
  | client (roundID : Int) (c : DCNetCipher)
  | trustee (roundID : Int) (c : DCNetCipher)

/-- The cipher a decode call absorbs. -/
def DecodeOp.cipher : DecodeOp → DCNetCipher
  | .client _ c => c
  | .trustee _ c => c

/-- The round a decode call names. -/
def DecodeOp.roundID : DecodeOp → Int
  | .client r _ => r
  | .trustee r _ => r

namespace DCNetEntity

variable (e : DCNetEntity)

/-- Run one decode call. -/
def decodeOp : DecodeOp → Except String DCNetEntity
  | .client r c => e.decodeClient r c
  | .trustee r c => e.decodeTrustee r c

/-- Run decode calls in order, stopping at the first panic. -/
def decodeAll (ops : List DecodeOp) : Except String DCNetEntity :=
  ops.foldlM (fun e op => e.decodeOp op) e

/-- One call for the round being decoded, with a cipher that fits the
accumulator, XORs the cipher in (equivocation protection off). -/
theorem decodeOp_eq (he : e.equivocationProtectionEnabled = false) {d : DCNetRoundDecoder}
    (hd : e.dcNetRoundDecoder = some d) {op : DecodeOp}
    (hr : op.roundID = d.currentRoundBeingDecoded)
    (hl : op.cipher.payload.length ≤ d.xorBuffer.length) :
    e.decodeOp op = .ok { e with dcNetRoundDecoder := some (
      { d with xorBuffer := xorInto d.xorBuffer op.cipher.payload }) } := by
  cases op <;>
    simp_all [decodeOp, decodeClient, decodeTrustee, decodeCipher, DecodeOp.roundID,
      DecodeOp.cipher, not_lt.mpr hl]

/-- **The accumulator after a round's decode calls.** -/
theorem decodeAll_eq (he : e.equivocationProtectionEnabled = false) (d : DCNetRoundDecoder)
    (hd : e.dcNetRoundDecoder = some d) (ops : List DecodeOp)
    (hr : ∀ op ∈ ops, op.roundID = d.currentRoundBeingDecoded)
    (hl : ∀ op ∈ ops, op.cipher.payload.length ≤ d.xorBuffer.length) :
    e.decodeAll ops = .ok { e with dcNetRoundDecoder := some (
      { d with xorBuffer := (ops.map fun op => op.cipher.payload).foldl xorInto d.xorBuffer }) } := by
  induction ops generalizing e d with
  | nil => rcases e with ⟨⟩; subst hd; rfl
  | cons op ops ih =>
    simp only [List.mem_cons, forall_eq_or_imp] at hr hl
    simp only [decodeAll, List.foldlM_cons, e.decodeOp_eq he hd hr.1 hl.1, bind, Except.bind]
    have := ih { e with dcNetRoundDecoder := some (
      { d with xorBuffer := xorInto d.xorBuffer op.cipher.payload }) } he _ rfl hr.2
      (by simpa using hl.2)
    simpa [decodeAll] using this

/-- A call for the round being decoded passes the round check: it XORs the
cipher in, or panics on a cipher longer than the accumulator. -/
theorem decodeOp_of_round {d : DCNetRoundDecoder} (hd : e.dcNetRoundDecoder = some d)
    {op : DecodeOp} (hr : op.roundID = d.currentRoundBeingDecoded) :
    (∃ e' d', e.decodeOp op = .ok e' ∧ e'.dcNetRoundDecoder = some d' ∧
      d'.currentRoundBeingDecoded = d.currentRoundBeingDecoded ∧
      d'.xorBuffer = xorInto d.xorBuffer op.cipher.payload) ∨
    e.decodeOp op = .error (indexOutOfRange d.xorBuffer.length d.xorBuffer.length) := by
  cases op <;>
    simp only [decodeOp, decodeClient, decodeTrustee, decodeCipher, hd, DecodeOp.roundID,
      DecodeOp.cipher] at hr ⊢ <;>
    rw [if_neg (not_not.mpr hr)] <;> split <;> simp <;> split <;> simp

/-- **Decode calls for the round being decoded never hit the round
check**, with or without equivocation protection: they XOR their ciphers into
the accumulator, or panic on a cipher longer than it. -/
theorem decodeAll_of_round (d : DCNetRoundDecoder) (hd : e.dcNetRoundDecoder = some d)
    (ops : List DecodeOp) (hr : ∀ op ∈ ops, op.roundID = d.currentRoundBeingDecoded) :
    (∃ e' d', e.decodeAll ops = .ok e' ∧ e'.dcNetRoundDecoder = some d' ∧
      d'.currentRoundBeingDecoded = d.currentRoundBeingDecoded ∧
      d'.xorBuffer = (ops.map fun op => op.cipher.payload).foldl xorInto d.xorBuffer) ∨
    e.decodeAll ops = .error (indexOutOfRange d.xorBuffer.length d.xorBuffer.length) := by
  induction ops generalizing e d with
  | nil => exact .inl ⟨e, d, rfl, hd, rfl, rfl⟩
  | cons op ops ih =>
    simp only [List.mem_cons, forall_eq_or_imp] at hr
    have hstep : e.decodeAll (op :: ops) = e.decodeOp op >>= fun e₁ => e₁.decodeAll ops := rfl
    rcases e.decodeOp_of_round hd hr.1 with ⟨e₁, d₁, h₁, hd₁, hr₁, hx₁⟩ | h₁
    · rw [hstep, h₁]
      have hlen : d₁.xorBuffer.length = d.xorBuffer.length := by rw [hx₁, length_xorInto]
      rw [← hr₁] at hr
      simpa [hlen, hr₁, hx₁] using ih e₁ d₁ hd₁ hr.2
    · exact .inr (by rw [hstep, h₁]; rfl)

/-- A call for the round being decoded with a cipher longer than the
accumulator panics at the slice index. -/
theorem decodeOp_of_long {d : DCNetRoundDecoder} (hd : e.dcNetRoundDecoder = some d) {op : DecodeOp}
    (hr : op.roundID = d.currentRoundBeingDecoded) (hl : d.xorBuffer.length < op.cipher.payload.length) :
    e.decodeOp op = .error (indexOutOfRange d.xorBuffer.length d.xorBuffer.length) := by
  cases op <;>
    simp only [decodeOp, decodeClient, decodeTrustee, decodeCipher, hd, DecodeOp.roundID,
      DecodeOp.cipher] at hr hl ⊢ <;>
    rw [if_neg (not_not.mpr hr), if_pos hl]

/-- **One cipher longer than the accumulator panics the round's decode**,
whatever calls come before it. -/
theorem decodeAll_of_long (d : DCNetRoundDecoder) (hd : e.dcNetRoundDecoder = some d)
    (ops : List DecodeOp) (hr : ∀ op ∈ ops, op.roundID = d.currentRoundBeingDecoded)
    (hl : ∃ op ∈ ops, d.xorBuffer.length < op.cipher.payload.length) :
    e.decodeAll ops = .error (indexOutOfRange d.xorBuffer.length d.xorBuffer.length) := by
  induction ops generalizing e d with
  | nil => simp at hl
  | cons op ops ih =>
    simp only [List.mem_cons, forall_eq_or_imp, exists_eq_or_imp] at hr hl
    have hstep : e.decodeAll (op :: ops) = e.decodeOp op >>= fun e₁ => e₁.decodeAll ops := rfl
    rw [hstep]
    by_cases hop : d.xorBuffer.length < op.cipher.payload.length
    · rw [e.decodeOp_of_long hd hr.1 hop]; rfl
    rcases e.decodeOp_of_round hd hr.1 with ⟨e₁, d₁, h₁, hd₁, hr₁, hx₁⟩ | h₁
    · -- the cipher fits: the accumulator keeps its length, and a later cipher panics
      have hlen : d₁.xorBuffer.length = d.xorBuffer.length := by rw [hx₁, length_xorInto]
      rw [h₁, ← hlen]
      exact ih e₁ d₁ hd₁ (by rw [hr₁]; exact hr.2) (by rw [hlen]; exact hl.resolve_left hop)
    · rw [h₁]; rfl

/-- Without equivocation protection, disruption protection leaves room for
the 32-byte HMAC. -/
theorem contentLength_of_disruption (he : e.equivocationProtectionEnabled = false)
    (hd : e.disruptionProtectionEnabled = true) : 32 < e.contentLength := by
  have h1 := e.contentSize_eq; have h2 := e.contribLength_eq
  have h3 := e.messageSize_of_disruption hd
  rw [he, equivocationContrib, if_neg Bool.false_ne_true] at h2
  rw [contentLength]; omega

/-- **What the relay outputs for a round** (equivocation protection off):
after `DecodeStart(r)` and decode calls for round `r` whose ciphers fit the
accumulator, `DecodeCell()` returns the XOR of the ciphers, without its first
32 bytes under disruption protection. -/
theorem decodeCell_decodeAll (he : e.equivocationProtectionEnabled = false) (r : Int)
    (ops : List DecodeOp) (hr : ∀ op ∈ ops, op.roundID = r)
    (hl : ∀ op ∈ ops, op.cipher.payload.length ≤ e.contentLength) :
    ((e.decodeStart r).decodeAll ops >>= decodeCell) =
      .ok (if e.disruptionProtectionEnabled then
        ((ops.map fun op => op.cipher.payload).foldl xorInto (List.replicate e.contentLength 0)).drop 32
      else (ops.map fun op => op.cipher.payload).foldl xorInto (List.replicate e.contentLength 0)) := by
  rw [(e.decodeStart r).decodeAll_eq he ⟨r, List.replicate e.contentLength 0, [], []⟩ rfl ops hr
    (by simpa using hl)]
  cases hd : e.disruptionProtectionEnabled
  · simp [bind, Except.bind, decodeCell, decodeStart, he, hd]
  · have := e.contentLength_of_disruption he hd
    simp [bind, Except.bind, decodeCell, decodeStart, he, hd, disruptionProtectionContribLength,
      not_lt.mpr this.le]

end DCNetEntity

/-- The order of absorption does not matter. -/
theorem foldl_xorInto_perm {cs cs' : List Bytes} (h : cs.Perm cs') (d : Bytes) :
    cs.foldl xorInto d = cs'.foldl xorInto d :=
  h.foldl_eq' (fun _ _ _ _ z => xorInto_right_comm z _ _) d

/-- **Pad cancellation.** Client `i` sends its plaintext XOR its pads
`w i j`; trustee `j` sends zeros XOR its pads `w i j`. Absorbing all of
them leaves the XOR of the plaintexts. -/
theorem foldl_xorInto_pads_cancel {N M n : Nat} (pl : Fin N → Bytes) (w : Fin N → Fin M → Bytes)
    (hpl : ∀ i, (pl i).length = n) :
    ((List.ofFn fun i => (List.ofFn (w i)).foldl xorInto (pl i)) ++
        List.ofFn fun j => (List.ofFn fun i => w i j).foldl xorInto (List.replicate n 0)).foldl
        xorInto (List.replicate n 0) =
      (List.ofFn pl).foldl xorInto (List.replicate n 0) := by
  refine ext_getD_zero (by simp) fun k hk => ?_
  have hk' : k < n := by simpa using hk
  have hz : k < (List.replicate n (0 : UInt8)).length := by simpa using hk'
  have hrow : ∀ i, ((List.ofFn (w i)).foldl xorInto (pl i)).getD k 0 =
      (pl i).getD k 0 ^^^ xorSum (List.ofFn fun j => (w i j).getD k 0) := fun i => by
    rw [getD_foldl_xorInto _ _ (by rw [hpl]; exact hk'), List.map_ofFn]; rfl
  have hcol : ∀ j, ((List.ofFn fun i => w i j).foldl xorInto (List.replicate n 0)).getD k 0 =
      xorSum (List.ofFn fun i => (w i j).getD k 0) := fun j => by
    rw [getD_foldl_xorInto _ _ hz, List.map_ofFn]; simp [Function.comp_def]
  rw [getD_foldl_xorInto _ _ hz, getD_foldl_xorInto _ _ hz, List.map_append, List.map_ofFn,
    List.map_ofFn, xorSum_append]
  simp only [Function.comp_def, hrow, hcol, xorSum_ofFn_xor, xorSum_ofFn_comm fun i j => (w i j).getD k 0]
  simp only [byte_xor_assoc, byte_xor_self, byte_xor_zero, List.map_ofFn]
  rfl

/-- Cell `k` of a plaintext table that is zero but at the owner's row. -/
theorem foldl_xorInto_ofFn_owner {N n : Nat} (owner : Option (Fin N)) (pl : Fin N → Bytes)
    (x : Bytes) (hx : x.length = n)
    (hpl : ∀ i, pl i = if owner = some i then x else List.replicate n 0) :
    (List.ofFn pl).foldl xorInto (List.replicate n 0) =
      if owner.isSome then x else List.replicate n 0 := by
  have hlen : ∀ i, (pl i).length = n := fun i => by rw [hpl]; split <;> simp [hx]
  refine ext_getD_zero (by split <;> simp [hx]) fun k hk => ?_
  have hk' : k < n := by simpa using hk
  rw [getD_foldl_xorInto _ _ (by simpa using hk'), List.map_ofFn]
  cases owner with
  | none => simp [Function.comp_def, hpl]
  | some o =>
    rw [xorSum_ofFn_single _ o fun i hi => by simp [Function.comp_def, hpl, Ne.symm hi]]
    simp [Function.comp_def, hpl]

/-- What `NewDCNetEntity` gives without equivocation protection: the content
size is the message size. -/
theorem newDCNetEntity_contentLength {suite : CryptoSuite} {i : Int} {ent : DCNetEntityType}
    {size : Int} {dis : Bool} {keys : List Prng} {e : DCNetEntity}
    (h : newDCNetEntity suite i ent size false dis keys = .ok e) :
    e.dcNetContentSize = size ∧ e.contentLength = size.toNat := by
  obtain ⟨-, -, heq, -, hsize, -⟩ := newDCNetEntity_ok h
  have h1 := e.contentSize_eq; have h2 := e.contribLength_eq
  rw [heq, equivocationContrib, if_neg Bool.false_ne_true] at h2
  refine ⟨by omega, ?_⟩
  rw [DCNetEntity.contentLength]; omega

/-- **Cipher of a fresh peer after a history**: an entity built by
`NewDCNetEntity`, after the calls of `hist`, encodes round `r` as its
plaintext cell XOR, for every shared key, the keystream window at
`(last + #hist + (r - last)) * DCNetContentSize`. -/
theorem encodeForRound_payload_of_run {suite : CryptoSuite} {i : Int} {ent : DCNetEntityType}
    {size : Int} {dis : Bool} {keys : List Prng} {e e₁ e₂ : DCNetEntity} {hist : List Int}
    {r : Int} {o : Bool} {p : Option Bytes} {c : DCNetCipher}
    (hnew : newDCNetEntity suite i ent size false dis keys = .ok e) (hent : ent ≠ .relay)
    (hrun : EncodeRun e hist e₁) (henc : e₁.encodeForRound r o p = .ok (c, e₂)) :
    ∃ pl, (if ent = .client then e.clientPayload o p = .ok pl
        else pl = List.replicate e.contentLength 0) ∧
      c.payload = (keys.map fun k => keystreamBytes (seedPrng suite k).keystream
        (((hist.getLastD 0).toNat + hist.length + (r - hist.getLastD 0).toNat) * e.contentLength)
        e.contentLength).foldl xorInto pl := by
  obtain ⟨-, hentity, heq, -, -, -, hprngs, hround, -⟩ := newDCNetEntity_ok hnew
  obtain ⟨-, hlast, he₁⟩ := hrun.entity_eq
  rw [hround] at hlast
  have heq₁ : e₁.equivocationProtectionEnabled = false := by rw [he₁]; exact heq
  obtain ⟨pl, hpl, hc⟩ := e₁.encodeForRound_payload heq₁ henc
  refine ⟨pl, by rw [he₁] at hpl; simpa [hentity] using hpl, ?_⟩
  rw [hc, he₁]
  simp only [DCNetEntity.contentLength_mk_sharedPRNGs, hprngs, hround, hlast, ne_eq, hent,
    not_false_eq_true, if_true, List.map_map, Function.comp_def, Prng.advance_keystream,
    Prng.advance_position]
  congr 1
  refine List.map_congr_left fun k _ => ?_
  congr 1
  simp only [seedPrng, Int.sub_zero, Nat.zero_add, ← Nat.add_mul]

/-- `GetPayloadSize()` of an entity built without equivocation protection. -/
theorem newDCNetEntity_getPayloadSize {suite : CryptoSuite} {i : Int} {ent : DCNetEntityType}
    {size : Int} {dis : Bool} {keys : List Prng} {e : DCNetEntity}
    (h : newDCNetEntity suite i ent size false dis keys = .ok e) :
    e.getPayloadSize = if dis then size - 32 else size := by
  obtain ⟨-, -, -, hdis, -⟩ := newDCNetEntity_ok h
  simp [DCNetEntity.getPayloadSize, hdis, (newDCNetEntity_contentLength h).1,
    disruptionProtectionContribLength]

/-- The slot owner's plaintext cell, as the relay reads it: a head of the
HMAC's size under disruption protection, then the payload zero-padded to
the relay's `GetPayloadSize()`, `size` bytes in all. -/
theorem ownerCell_layout {suite : CryptoSuite} {cid rid size : Int} {disruption : Bool}
    {keys rkeys : List Prng} {c relay : DCNetEntity}
    (hc : newDCNetEntity suite cid .client size false disruption keys = .ok c)
    (hr : newDCNetEntity suite rid .relay size false disruption rkeys = .ok relay) {P : Option Bytes}
    (hfit : ((P.getD []).length : Int) ≤ c.getPayloadSize) {X : Bytes}
    (hX : c.clientPayload true P = .ok X) :
    ∃ h : Bytes, h.length = (if disruption then 32 else 0) ∧
      X = h ++ (P.getD [] ++ List.replicate (relay.getPayloadSize.toNat - (P.getD []).length) 0) ∧
      X.length = size.toNat := by
  obtain ⟨-, -, heq, hdis, -⟩ := newDCNetEntity_ok hc
  have hgo : c.getPayloadSize = relay.getPayloadSize := by
    rw [newDCNetEntity_getPayloadSize hc, newDCNetEntity_getPayloadSize hr]
  obtain ⟨h, hh, hpo⟩ := c.clientPayload_owner heq hfit
  rw [hgo] at hpo hfit
  rw [hdis] at hh
  obtain rfl := Except.ok.inj (hX.symm.trans hpo)
  refine ⟨h, hh, rfl, ?_⟩
  have hn := congrArg List.length (c.replicate_contentLength heq)
  simp only [List.length_replicate, List.length_append, (newDCNetEntity_contentLength hc).2, hgo,
    hdis] at hn
  simp only [List.length_append, List.length_replicate]; omega

/-- **DC-net round trip** (equivocation protection off). `N` clients and `M`
trustees are built by `NewDCNetEntity` with one message size and one
disruption flag; client `i`'s key `j` and trustee `j`'s key `i` seed the same
keystream; all made `EncodeForRound` calls with the round ids `hist`. At
round `r` the owner (if any) encodes `P`, the other clients encode `nil`,
every trustee encodes. A relay built alike runs `DecodeStart(r)` and absorbs
all ciphers in any order: `DecodeCell()` returns `P` zero-padded to
`GetPayloadSize()` bytes, or zeros if no client owned the round. -/
theorem decodeCell_roundTrip (suite : CryptoSuite) {N M : Nat} (size : Int) (disruption : Bool)
    (clientKeys : Fin N → Fin M → Prng) (trusteeKeys : Fin M → Fin N → Prng)
    (hkeys : ∀ i j, (seedPrng suite (clientKeys i j)).keystream =
      (seedPrng suite (trusteeKeys j i)).keystream)
    (cid : Fin N → Int) (tid : Fin M → Int) (rid : Int) (rkeys : List Prng)
    (clients clients₁ clients₂ : Fin N → DCNetEntity)
    (trustees trustees₁ trustees₂ : Fin M → DCNetEntity) (relay : DCNetEntity)
    (hc : ∀ i, newDCNetEntity suite (cid i) .client size false disruption
      (List.ofFn (clientKeys i)) = .ok (clients i))
    (ht : ∀ j, newDCNetEntity suite (tid j) .trustee size false disruption
      (List.ofFn (trusteeKeys j)) = .ok (trustees j))
    (hr : newDCNetEntity suite rid .relay size false disruption rkeys = .ok relay)
    (hist : List Int) (hcr : ∀ i, EncodeRun (clients i) hist (clients₁ i))
    (htr : ∀ j, EncodeRun (trustees j) hist (trustees₁ j))
    (r : Int) (owner : Option (Fin N)) (P : Option Bytes)
    (hP : ∀ o, owner = some o → ((P.getD []).length : Int) ≤ (clients₁ o).getPayloadSize)
    (cc : Fin N → DCNetCipher)
    (hce : ∀ i, (clients₁ i).encodeForRound r (decide (owner = some i))
      (if owner = some i then P else none) = .ok (cc i, clients₂ i))
    (tOwner : Fin M → Bool) (tPayload : Fin M → Option Bytes) (tc : Fin M → DCNetCipher)
    (hte : ∀ j, (trustees₁ j).encodeForRound r (tOwner j) (tPayload j) = .ok (tc j, trustees₂ j))
    (ops : List DecodeOp)
    (hops : ops.Perm ((List.ofFn fun i => DecodeOp.client r (cc i)) ++
      List.ofFn fun j => DecodeOp.trustee r (tc j))) :
    ((relay.decodeStart r).decodeAll ops >>= DCNetEntity.decodeCell) =
      .ok ((if owner.isSome then P.getD [] else []) ++
        List.replicate (relay.getPayloadSize.toNat -
          (if owner.isSome then P.getD [] else []).length) 0) := by
  -- every peer has `size.toNat` content bytes
  set n := size.toNat
  have hcn : ∀ i, (clients i).contentLength = n := fun i => (newDCNetEntity_contentLength (hc i)).2
  have htn : ∀ j, (trustees j).contentLength = n := fun j => (newDCNetEntity_contentLength (ht j)).2
  obtain ⟨-, hrn⟩ := newDCNetEntity_contentLength hr
  obtain ⟨-, -, hreq, hrdis, -⟩ := newDCNetEntity_ok hr
  -- the pads, all read at one keystream position
  set W : Fin N → Fin M → Bytes := fun i j => keystreamBytes (seedPrng suite (clientKeys i j)).keystream
    (((hist.getLastD 0).toNat + hist.length + (r - hist.getLastD 0).toNat) * n) n
  have hcc : ∀ i, ∃ pl, (clients i).clientPayload (decide (owner = some i))
      (if owner = some i then P else none) = .ok pl ∧ (cc i).payload = (List.ofFn (W i)).foldl xorInto pl := by
    intro i
    obtain ⟨pl, hpl, hpay⟩ := encodeForRound_payload_of_run (hc i) (by decide) (hcr i) (hce i)
    exact ⟨pl, by simpa using hpl, by rw [hpay, List.map_ofFn, hcn]; rfl⟩
  choose pl hpl hccp using hcc
  have htc : ∀ j, (tc j).payload = (List.ofFn fun i => W i j).foldl xorInto (List.replicate n 0) := by
    intro j
    obtain ⟨z, hz, hpay⟩ := encodeForRound_payload_of_run (ht j) (by decide) (htr j) (hte j)
    simp only [if_neg (by decide : DCNetEntityType.trustee ≠ .client), htn] at hz
    rw [hpay, hz, List.map_ofFn, htn]
    congr 2; funext i; simp [W, hkeys]
  -- the owner's payload fits, seen from its entity before the history
  have hPo : ∀ o, owner = some o → ((P.getD []).length : Int) ≤ (clients o).getPayloadSize := by
    intro o ho
    obtain ⟨-, -, he₁⟩ := (hcr o).entity_eq
    have := hP o ho
    rwa [he₁] at this
  -- the plaintext cells: zeros but at the owner's row
  obtain ⟨X, hX⟩ : ∃ X, X = owner.elim (List.replicate n 0) pl := ⟨_, rfl⟩
  have hplX : ∀ i, pl i = if owner = some i then X else List.replicate n 0 := by
    intro i
    by_cases hi : owner = some i
    · simp [hi, hX]
    · have := hpl i
      simp only [hi, decide_False, if_false, DCNetEntity.clientPayload_none, hcn] at this
      rw [if_neg hi]; exact (Except.ok.inj this).symm
  -- the owner's cell, or zeros: a head of the HMAC's size, then the padded payload
  have hgps := newDCNetEntity_getPayloadSize hr
  obtain ⟨h, hh, hcellEq, hXlen⟩ : ∃ h : Bytes, h.length = (if disruption then 32 else 0) ∧
      (if owner.isSome then X else List.replicate n 0) =
        h ++ ((if owner.isSome then P.getD [] else []) ++ List.replicate (relay.getPayloadSize.toNat -
          (if owner.isSome then P.getD [] else []).length) 0) ∧ X.length = n := by
    cases ho : owner with
    | none =>
      refine ⟨List.replicate _ 0, List.length_replicate _ _, ?_, by simp [hX, ho]⟩
      simp only [Option.isSome_none, Bool.false_eq_true, if_false, List.nil_append, List.length_nil,
        Nat.sub_zero]
      rw [show n = relay.contentLength from hrn.symm, relay.replicate_contentLength hreq, hrdis]
    | some o =>
      have hplo := hpl o
      simp only [ho, decide_True, if_true] at hplo
      obtain ⟨h, hh, hXo, hXlen⟩ := ownerCell_layout (hc o) hr (hPo o ho) hplo
      exact ⟨h, hh, by simp [hX, ho, hXo], by simpa [hX, ho] using hXlen⟩
  -- the relay's accumulator, whatever the order: the owner's cell
  have hlen : ∀ op ∈ (List.ofFn fun i => DecodeOp.client r (cc i)) ++
      List.ofFn fun j => DecodeOp.trustee r (tc j), op.roundID = r ∧ op.cipher.payload.length = n := by
    intro op hop
    simp only [List.mem_append, List.mem_ofFn] at hop
    rcases hop with ⟨i, rfl⟩ | ⟨j, rfl⟩
    · simp [DecodeOp.roundID, DecodeOp.cipher, hccp, hplX i]; split <;> simp [hXlen]
    · simp [DecodeOp.roundID, DecodeOp.cipher, htc]
  have hbuf : (ops.map fun op => op.cipher.payload).foldl xorInto
      (List.replicate relay.contentLength 0) = if owner.isSome then X else List.replicate n 0 := by
    rw [foldl_xorInto_perm (hops.map _), List.map_append, List.map_ofFn, List.map_ofFn, hrn]
    simp only [Function.comp_def, DecodeOp.cipher, hccp, htc]
    rw [foldl_xorInto_pads_cancel pl W fun i => by rw [hplX i]; split <;> simp [hXlen],
      foldl_xorInto_ofFn_owner owner pl X hXlen hplX]
  rw [relay.decodeCell_decodeAll hreq r ops (fun op hop => (hlen op (hops.subset hop)).1)
    (fun op hop => by simp [(hlen op (hops.subset hop)).2, hrn]), hbuf, hcellEq, hrdis]
  cases disruption
  · simp [List.length_eq_zero.mp (by simpa using hh)]
  · simp [hh, List.drop_left']

/-- One client owning round 0 with the payload `[7]`, one trustee, two-byte
cells, the keystream `k ↦ k` on the shared key; the relay absorbs the
trustee's cipher `[0, 1]` before the client's `[7, 1]` and decodes `[7, 0]`. -/
theorem decodeCell_roundTrip_one_client :
    let key : Prng := ⟨fun _ => 0, 0⟩
    let client : DCNetEntity :=
      { entityID := 0, entity := .client,
        equivocationProtectionEnabled := false, disruptionProtectionEnabled := false,
        dcNetMessageSize := 2, dcNetContentSize := 2, cryptoSuite := .counting,
        sharedPRNGs := [seedPrng .counting key], currentRound := 0, dcNetRoundDecoder := none,
        equivocationProtection := [], equivocationContribLength := 0,
        contentSize_pos := by decide, contentSize_eq := rfl, contribLength_eq := rfl,
        messageSize_of_disruption := nofun }
    let trustee : DCNetEntity := { client with entityID := 1, entity := .trustee }
    let relay : DCNetEntity := { client with entityID := 2, entity := .relay, sharedPRNGs := [] }
    let ops := [DecodeOp.trustee 0 ⟨[0, 1], []⟩, DecodeOp.client 0 ⟨[7, 1], []⟩]
    (∀ _ _ : Fin 1, (seedPrng .counting key).keystream = (seedPrng .counting key).keystream) ∧
    (∀ _ : Fin 1, newDCNetEntity .counting 0 .client 2 false false (List.ofFn fun _ : Fin 1 => key) =
      .ok client) ∧
    (∀ _ : Fin 1, newDCNetEntity .counting 1 .trustee 2 false false (List.ofFn fun _ : Fin 1 => key) =
      .ok trustee) ∧
    newDCNetEntity .counting 2 .relay 2 false false [] = .ok relay ∧
    (∀ _ : Fin 1, EncodeRun client [] client) ∧ (∀ _ : Fin 1, EncodeRun trustee [] trustee) ∧
    (∀ o : Fin 1, some 0 = some o → (([7] : Bytes).length : Int) ≤ client.getPayloadSize) ∧
    (∀ i : Fin 1, client.encodeForRound 0 (decide (some 0 = some i))
      (if some 0 = some i then some [7] else none) =
        .ok (⟨[7, 1], []⟩, { client with sharedPRNGs := [(seedPrng .counting key).advance 2] })) ∧
    (∀ _ : Fin 1, trustee.encodeForRound 0 false none =
      .ok (⟨[0, 1], []⟩, { trustee with sharedPRNGs := [(seedPrng .counting key).advance 2] })) ∧
    ops.Perm ((List.ofFn fun _ : Fin 1 => DecodeOp.client 0 ⟨[7, 1], []⟩) ++
      List.ofFn fun _ : Fin 1 => DecodeOp.trustee 0 ⟨[0, 1], []⟩) ∧
    ((relay.decodeStart 0).decodeAll ops >>= DCNetEntity.decodeCell) = .ok [7, 0] := by
  intro key client trustee relay ops
  have hc : ∀ _ : Fin 1, newDCNetEntity .counting 0 .client 2 false false
      (List.ofFn fun _ : Fin 1 => key) = .ok client := by
    dsimp only [key, client]; exact fun _ => rfl
  have ht : ∀ _ : Fin 1, newDCNetEntity .counting 1 .trustee 2 false false
      (List.ofFn fun _ : Fin 1 => key) = .ok trustee := by
    dsimp only [key, client, trustee]; exact fun _ => rfl
  have hr : newDCNetEntity .counting 2 .relay 2 false false [] = .ok relay := by
    dsimp only [key, client, relay]; rfl
  have hP : ∀ o : Fin 1, some 0 = some o → (([7] : Bytes).length : Int) ≤ client.getPayloadSize := by
    dsimp only [client]; exact fun _ _ => by decide
  have hce : ∀ i : Fin 1, client.encodeForRound 0 (decide (some 0 = some i))
      (if some 0 = some i then some [7] else none) =
        .ok (⟨[7, 1], []⟩, { client with sharedPRNGs := [(seedPrng .counting key).advance 2] }) := by
    dsimp only [key, client]; exact Fin.forall_fin_one.mpr rfl
  have hte : ∀ _ : Fin 1, trustee.encodeForRound 0 false none =
      .ok (⟨[0, 1], []⟩, { trustee with sharedPRNGs := [(seedPrng .counting key).advance 2] }) := by
    dsimp only [key, client, trustee]; exact fun _ => rfl
  have hops : ops.Perm ((List.ofFn fun _ : Fin 1 => DecodeOp.client 0 ⟨[7, 1], []⟩) ++
      List.ofFn fun _ : Fin 1 => DecodeOp.trustee 0 ⟨[0, 1], []⟩) := List.Perm.swap _ _ _
  refine ⟨fun _ _ => rfl, hc, ht, hr, fun _ => .nil _, fun _ => .nil _, hP, hce, hte, hops,
    (decodeCell_roundTrip .counting 2 false (fun _ _ => key) (fun _ _ => key) (fun _ _ => rfl)
      (fun _ => 0) (fun _ => 1) 2 [] (fun _ => client) (fun _ => client) _ (fun _ => trustee)
      (fun _ => trustee) _ relay hc ht hr [] (fun _ => .nil _) (fun _ => .nil _) 0 (some 0)
      (some [7]) hP _ hce (fun _ => false) (fun _ => none) _ hte ops hops).trans ?_⟩
  dsimp only [relay, client]; rfl

end Prifi
