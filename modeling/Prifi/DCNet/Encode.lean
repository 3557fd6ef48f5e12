import Prifi.DCNet.Keystream

/-!
# What `EncodeForRound` returns

The relay XORs every cipher into an accumulator of `DCNetContentSize` bytes,
so a cipher of any other length breaks the round. `EncodeForRound` checks
`len(payload) <= DCNetContentSize` and the round; after that, with
equivocation protection off:

- `encodeForRound_length`: a `nil` payload, or one that fits in
  `GetPayloadSize()`, is encoded without a panic. The cipher has
  `DCNetContentSize` bytes — except for a client that is not the slot owner,
  passes a non-`nil` payload and runs disruption protection: the 32-byte
  HMAC is only put in front for slot owners, so its cipher is 32 bytes short.
- `encodeForRound_panics`: a client payload longer than `GetPayloadSize()` but
  within `DCNetContentSize` passes the check and then panics at
  `payload2[0:len(payload)]`; the check compares against the content size,
  not against what an owner may embed.
-/

namespace Prifi

namespace DCNetEntity

variable (e : DCNetEntity)

@[simp] theorem discardRounds_getPayloadSize (n : Nat) :
    (e.discardRounds n).getPayloadSize = e.getPayloadSize := by
  rw [discardRounds_eq]; rfl

@[simp] theorem discardRounds_entity (n : Nat) : (e.discardRounds n).entity = e.entity := by
  rw [discardRounds_eq]

@[simp] theorem discardRounds_dcNetContentSize (n : Nat) :
    (e.discardRounds n).dcNetContentSize = e.dcNetContentSize := by
  rw [discardRounds_eq]

@[simp] theorem discardRounds_contentLength (n : Nat) :
    (e.discardRounds n).contentLength = e.contentLength := by
  rw [discardRounds_eq]; rfl

@[simp] theorem discardRounds_equivocation (n : Nat) :
    (e.discardRounds n).equivocationProtectionEnabled = e.equivocationProtectionEnabled := by
  rw [discardRounds_eq]

@[simp] theorem discardRounds_disruption (n : Nat) :
    (e.discardRounds n).disruptionProtectionEnabled = e.disruptionProtectionEnabled := by
  rw [discardRounds_eq]

/-- The plaintext cell of a payload that is `nil` or fits in
`GetPayloadSize()`: `DCNetContentSize` bytes, 32 fewer for a non-owner's
non-`nil` payload under disruption protection. -/
theorem clientPayload_length {o : Bool} {p : Option Bytes}
    (he : e.equivocationProtectionEnabled = false)
    (hp : ((p.getD []).length : Int) ≤ e.getPayloadSize) :
    ∃ pl, e.clientPayload o p = .ok pl ∧
      (pl.length : Int) = if e.disruptionProtectionEnabled ∧ o = false ∧ p.isSome then
        e.dcNetContentSize - 32 else e.dcNetContentSize := by
  have hg := e.getPayloadSize_nonneg he
  have hc := e.contentLength_cast
  cases p with
  | none => exact ⟨_, e.clientPayload_none o, by simp [hc]⟩
  | some p =>
    refine ⟨_, e.clientPayload_some hg hp, ?_⟩
    simp only [Option.getD_some] at hp
    unfold getPayloadSize disruptionProtectionContribLength at hp hg ⊢
    cases o <;> cases hd : e.disruptionProtectionEnabled <;>
      (simp_all [e.computeHmac256_length]; try omega)

/-- A cell of zeros splits as a head of the HMAC's size under disruption
protection, then `GetPayloadSize()` zeros. -/
theorem replicate_contentLength (he : e.equivocationProtectionEnabled = false) :
    List.replicate e.contentLength (0 : UInt8) =
      List.replicate (if e.disruptionProtectionEnabled then 32 else 0) 0 ++
        List.replicate e.getPayloadSize.toNat 0 := by
  have hc := e.contentLength_cast
  have hg := e.getPayloadSize_nonneg he
  rw [← List.replicate_add]
  unfold getPayloadSize disruptionProtectionContribLength at hg ⊢
  by_cases hd : e.disruptionProtectionEnabled <;> simp only [hd, Bool.false_eq_true, if_true, if_false] at hg ⊢ <;>
    congr 1 <;> omega

/-- **A slot owner's plaintext cell** (equivocation protection off): a head
of the HMAC's size under disruption protection, then the payload
zero-padded to `GetPayloadSize()` bytes. -/
theorem clientPayload_owner {p : Option Bytes} (he : e.equivocationProtectionEnabled = false)
    (hp : ((p.getD []).length : Int) ≤ e.getPayloadSize) :
    ∃ h : Bytes, h.length = (if e.disruptionProtectionEnabled then 32 else 0) ∧
      e.clientPayload true p =
        .ok (h ++ (p.getD [] ++ List.replicate (e.getPayloadSize.toNat - (p.getD []).length) 0)) := by
  cases p with
  | none =>
    refine ⟨List.replicate _ 0, List.length_replicate _ _, ?_⟩
    rw [clientPayload_none, e.replicate_contentLength he]; simp
  | some p =>
    refine ⟨_, ?_, e.clientPayload_some (e.getPayloadSize_nonneg he) hp⟩
    split <;> simp_all [e.computeHmac256_length]

@[simp] theorem discardRounds_clientPayload (n : Nat) (o : Bool) (p : Option Bytes) :
    (e.discardRounds n).clientPayload o p = e.clientPayload o p := by
  rw [discardRounds_eq]; rfl

/-- **The cipher of a successful call** (equivocation protection off): the
plaintext cell — the client's, or zeros for a trustee — XOR one pad per
PRNG, read after the skipped rounds. -/
theorem encodeForRound_payload {r : Int} {o : Bool} {p : Option Bytes} {c : DCNetCipher}
    {e' : DCNetEntity} (he : e.equivocationProtectionEnabled = false)
    (h : e.encodeForRound r o p = .ok (c, e')) :
    ∃ pl, (if e.entity = .client then e.clientPayload o p = .ok pl
        else pl = List.replicate e.contentLength 0) ∧
      c.payload = (e.sharedPRNGs.map fun g => keystreamBytes g.keystream
        (g.position + (r - e.currentRound).toNat * e.contentLength) e.contentLength).foldl
        xorInto pl := by
  simp only [encodeForRound] at h
  split at h
  · cases h
  split at h
  · cases h
  have hpads : (e.discardRounds (r - e.currentRound).toNat).preparePads.1 =
      e.sharedPRNGs.map fun g => keystreamBytes g.keystream
        (g.position + (r - e.currentRound).toNat * e.contentLength) e.contentLength := by
    rw [preparePads_eq, discardRounds_contentLength, discardRounds_eq]
    simp [Function.comp_def]
  split at h
  · rename_i hcl
    simp only [clientEncode, discardRounds_clientPayload] at h
    obtain ⟨pl, hpl, h⟩ := except_bind_eq_ok.mp h
    simp only [discardRounds_equivocation, he, Bool.false_eq_true, if_false] at h
    obtain ⟨x, hx, h⟩ := except_bind_eq_ok.mp h
    cases h
    have hcl' : e.entity = .client := by simpa using hcl
    refine ⟨pl, by rw [if_pos hcl']; exact hpl, ?_⟩
    rw [xorPads_ok hx, hpads]
  · rename_i hcl
    simp only [trusteeEncode] at h
    obtain ⟨x, hx, h⟩ := except_bind_eq_ok.mp h
    cases h
    have hcl' : e.entity ≠ .client := by simpa using hcl
    refine ⟨List.replicate e.contentLength 0, by rw [if_neg hcl'], ?_⟩
    rw [xorPads_ok hx, hpads, discardRounds_contentLength]

/-- **Encoding succeeds and its length** (equivocation protection off). -/
theorem encodeForRound_length {r : Int} {o : Bool} {p : Option Bytes}
    (he : e.equivocationProtectionEnabled = false) (hr : e.currentRound ≤ r)
    (hp : ((p.getD []).length : Int) ≤ e.getPayloadSize) :
    ∃ c e', e.encodeForRound r o p = .ok (c, e') ∧
      (c.payload.length : Int) =
        if e.entity = .client ∧ e.disruptionProtectionEnabled ∧ o = false ∧ p.isSome then
          e.dcNetContentSize - 32 else e.dcNetContentSize := by
  have hcs : ((p.getD []).length : Int) ≤ e.dcNetContentSize := by
    have := e.getPayloadSize_nonneg he
    unfold getPayloadSize at hp; split at hp <;> omega
  set e₁ := e.discardRounds (r - e.currentRound).toNat with he₁
  have hent : e₁.entity = e.entity := by simp [he₁]
  have he1 : e₁.equivocationProtectionEnabled = false := by simp [he₁, he]
  simp only [encodeForRound, not_lt.mpr hcs, not_lt.mpr hr, if_false, ← he₁]
  by_cases hcl : e.entity = .client
  · obtain ⟨pl, hpl, hlen⟩ := e₁.clientPayload_length he1 (by simpa [he₁] using hp)
    have hle : pl.length ≤ e₁.contentLength := by
      have := e₁.contentLength_cast; split at hlen <;> omega
    rw [if_pos (hent.trans hcl), e₁.clientEncode_eq he1 hpl hle]
    refine ⟨_, _, rfl, ?_⟩
    simp only [length_foldl_xorInto, hlen, hcl, true_and]
    simp [he₁]
  · rw [if_neg (hent ▸ hcl), e₁.trusteeEncode_eq he1]
    refine ⟨_, _, rfl, ?_⟩
    simp [hcl, e.contentLength_cast, he₁]

/-- **The slice panic**: a client payload longer than `GetPayloadSize()` but
within `DCNetContentSize` passes `EncodeForRound`'s check, then panics. -/
theorem encodeForRound_panics {r : Int} {o : Bool} {p : Bytes}
    (he : e.equivocationProtectionEnabled = false) (hcl : e.entity = .client)
    (hr : e.currentRound ≤ r) (hp : e.getPayloadSize < p.length)
    (hcs : (p.length : Int) ≤ e.dcNetContentSize) :
    e.encodeForRound r o (some p) =
      .error (sliceBoundsOutOfRange p.length e.getPayloadSize.toNat) := by
  set e₁ := e.discardRounds (r - e.currentRound).toNat with he₁
  have hg := e.getPayloadSize_nonneg he
  have h1 : e₁.clientPayload o (some p) = .error (sliceBoundsOutOfRange p.length e.getPayloadSize.toNat) := by
    rw [e₁.clientPayload_some_panic (by simpa [he₁] using hg) (by simpa [he₁] using hp)]
    simp [he₁]
  simp only [encodeForRound, Option.getD_some, not_lt.mpr hcs, not_lt.mpr hr, if_false, ← he₁,
    show e₁.entity = .client by simp [he₁, hcl], if_true, clientEncode, h1]
  rfl

end DCNetEntity

/-- The failing inputs of "encoding always yields a full cell": a client with
a 33-byte cell and disruption protection (so `GetPayloadSize() = 1`).
`EncodeForRound(0, false, []byte{})` returns a 1-byte cipher;
`EncodeForRound(0, true, p)` with `len(p) = 33` panics. -/
theorem encodeForRound_disruption_failing_inputs :
    ((newDCNetEntity .counting 0 .client 33 false true [⟨fun _ => 0, 0⟩] >>= fun e =>
        e.encodeForRound 0 false (some [])).map fun r => r.1.payload.length) = .ok 1 ∧
    ((newDCNetEntity .counting 0 .client 33 false true [⟨fun _ => 0, 0⟩] >>= fun e =>
        e.encodeForRound 0 true (some (List.replicate 33 0))).map fun r => r.1.payload.length) =
      .error (sliceBoundsOutOfRange 33 1) :=
  ⟨rfl, rfl⟩

end Prifi
