import Prifi.Scheduler.NeffShuffle

/-!
# Checking the shuffle transcript

After the last shuffle the relay sends every trustee the whole transcript:
the bases, the key lists and the proofs of all trustees
(`ReceivedTranscriptFromRelay`). The trustee is to check each pair-shuffle
proof and that its own output is in the transcript, and then sign the last
base and key list.

- `verifyShuffles_bind`: the verification loop never returns an error. It
  computes `err` from the pair-shuffle verifier, but `verify` is then set to
  `true` (`// TODO: This shuffle needs to be fixed`), so no proof is checked.
- `keysEqualFrom_true`, `ownPermutationFound_true`: what the search for the
  trustee's own entry establishes. The keys are compared only for
  `k < len(shuffledPublicKeys[0])`; nothing compares the lengths.
- `receivedTranscriptFromRelay_pairShuffleVerify`: the result does not
  depend on the pair-shuffle verifier at all.
- `receivedTranscriptFromRelay_signs`: what a signature still certifies: the
  sizes agree and are nonzero, and some entry `j` carries the trustee's base
  and proof and agrees with its keys on the first `len(shuffledPublicKeys[0])`
  positions.
- **`receivedTranscriptFromRelay_forged`**: against §4.3, a trustee signs a
  transcript whose step its verifier rejects, and one whose key list is
  empty.
-/

namespace Prifi

/-- The suite operations `ReceivedTranscriptFromRelay` reaches. -/
structure TranscriptCrypto (Scalar Point : Type) where
  /-- `crypto_proof.HashVerify(suite, "PairShuffle", shuffle.Verifier(suite,
  nil, X[0], X, X, Xbar, Xbar), proof)` for the step from `X` to `Xbar`:
  `none` when it returns no error. -/
  pairShuffleVerify : List Point → List Point → Bytes → Option String
  /-- `MarshalBinary()` of a scalar; `none` for an error. -/
  marshalScalar : Scalar → Option Bytes
  /-- `MarshalBinary()` of a point; `none` for an error. -/
  marshalPoint : Point → Option Bytes
  /-- `crypto.SchnorrSign(suite, random.Stream, blob, private)`. -/
  schnorrSign : Scalar → Bytes → Bytes

/-- `TRU_REL_SHUFFLE_SIG`. -/
structure TruRelShuffleSig where
  trusteeID : Int
  sig : Bytes

variable {Scalar Point : Type} [DecidableEq Scalar] [DecidableEq Point]

/-- Turn `j` of the verification loop. For `j > 0` with `len(X) > 1` the
verifier is run on `X = shuffledPublicKeys[j-1]`, `Xbar = shuffledPublicKeys[j]`
and `proofs[j]`; otherwise `err` keeps its value from the turn before. The
`verify = false` that an error sets is overwritten by `verify = true`, so the
`!verify` return is never taken. -/
def verifyTurn (crypto : TranscriptCrypto Scalar Point) (shuffledPublicKeys : List (List Point))
    (proofs : List Bytes) (err : Option String) (j : Nat) : Except String (Option String) :=
  let err := if 0 < j ∧ 1 < (shuffledPublicKeys.getD (j - 1) []).length then
      crypto.pairShuffleVerify (shuffledPublicKeys.getD (j - 1) []) (shuffledPublicKeys.getD j [])
        (proofs.getD j [])
    else err
  let verify := true
  if !verify then
    .error ("Could not verify the " ++ toString j ++ "th neff shuffle, error is " ++ err.getD "")
  else .ok err

/-- The verification loop `for j := 0; j < nTrustees; j++`. -/
def verifyShuffles (crypto : TranscriptCrypto Scalar Point) (shuffledPublicKeys : List (List Point))
    (proofs : List Bytes) (nTrustees : Nat) : Except String (Option String) :=
  (List.range nTrustees).foldlM (verifyTurn crypto shuffledPublicKeys proofs) none

/-- The inner loop for row `j`: `t.EphemeralKeys[k].Equal(shuffledPublicKeys[j][k])`
for the given `k`, leaving at the first difference (`allKeyEqual = false;
break`). Each index panics when out of range. -/
def keysEqualFrom (ephemeralKeys row : List Point) : List Nat → Except String Bool
  | [] => .ok true
  | k :: ks => do
    let a ← sliceIndex ephemeralKeys k
    let b ← sliceIndex row k
    if a ≠ b then .ok false else keysEqualFrom ephemeralKeys row ks

/-- The loop that sets `ownPermutationFound`: entry `j` is ours when its base
and proof are ours and its first `nClients` keys are ours. -/
def ownPermutationFound (ephemeralKeys : List Point) (tShares : Scalar) (tProof : Bytes)
    (shares : List Scalar) (shuffledPublicKeys : List (List Point)) (proofs : List Bytes)
    (nClients : Nat) : Except String Bool :=
  (List.range shares.length).foldlM (fun found j => do
      let sj ← sliceIndex shares j
      let pj ← sliceIndex proofs j
      if sj = tShares ∧ tProof = pj then
        let row ← sliceIndex shuffledPublicKeys j
        let allKeyEqual ← keysEqualFrom ephemeralKeys row (List.range nClients)
        pure (allKeyEqual || found)
      else pure found) false

/-- The signed blob: `shares[lastPerm]`, then the first `nClients` keys of
`shuffledPublicKeys[lastPerm]`, each marshalled. -/
def transcriptBlob (crypto : TranscriptCrypto Scalar Point) (shares : List Scalar)
    (shuffledPublicKeys : List (List Point)) (nClients : Nat) : Except String Bytes := do
  let lastPerm := shares.length - 1
  let lastShares ← sliceIndex shares lastPerm
  let some lastSharesByte := crypto.marshalScalar lastShares
    | .error "Can't marshall the last shares..."
  (List.range nClients).foldlM (fun blob j => do
      let pk ← sliceIndex (← sliceIndex shuffledPublicKeys lastPerm) j
      let some pkBytes := crypto.marshalPoint pk
        | .error ("Can't marshall shuffled public key" ++ toString j)
      pure (blob ++ pkBytes)) lastSharesByte

/-- `ReceivedTranscriptFromRelay(shares, shuffledPublicKeys, proofs)`. The
signature's random stream is folded into `schnorrSign`; a `nil` private key
panics inside it. -/
def NeffShuffleTrusteeView.receivedTranscriptFromRelay (t : NeffShuffleTrusteeView Scalar Point)
    (crypto : TranscriptCrypto Scalar Point) (shares : List Scalar)
    (shuffledPublicKeys : List (List Point)) (proofs : List Bytes) :
    Except String TruRelShuffleSig :=
  match t.shares, t.ephemeralKeys, t.proof with
  | none, _, _ => .error "Cannot verify the shuffle, we didn't store the base"
  | some _, none, _ => .error "Cannot verify the shuffle, we didn't store the ephemeral keys"
  | some tShares, some ephemeralKeys, tProof =>
    if ephemeralKeys.length = 0 then
      .error "Cannot verify the shuffle, we didn't store the ephemeral keys"
    else match tProof with
    | none => .error "Cannot verify the shuffle, we didn't store the proof"
    | some tProof =>
      if shares.length ≠ shuffledPublicKeys.length ∨ shares.length ≠ proofs.length then
        .error ("Size not matching, G_s is " ++ toString shares.length ++
          ", shuffledPublicKeys_s is " ++ toString shuffledPublicKeys.length ++
          ", proof_s is " ++ toString proofs.length ++ ".")
      else do
        let nTrustees := shares.length
        let nClients := (← sliceIndex shuffledPublicKeys 0).length
        let _ ← verifyShuffles crypto shuffledPublicKeys proofs nTrustees
        let found ← ownPermutationFound ephemeralKeys tShares tProof shares shuffledPublicKeys
          proofs nClients
        if !found then .error "Could not locate our own permutation in the transcript..."
        else do
          let blob ← transcriptBlob crypto shares shuffledPublicKeys nClients
          match t.privateKey with
          | none => .error nilPointerDereference
          | some privateKey => pure ⟨t.trusteeId, crypto.schnorrSign privateKey blob⟩

/-! ## The verification loop checks nothing -/

section Verify

variable (crypto : TranscriptCrypto Scalar Point) (shuffledPublicKeys : List (List Point))
  (proofs : List Bytes)

omit [DecidableEq Scalar] [DecidableEq Point] in
theorem verifyTurn_ok (err : Option String) (j : Nat) :
    ∃ err', verifyTurn crypto shuffledPublicKeys proofs err j = .ok err' :=
  ⟨_, rfl⟩

omit [DecidableEq Scalar] [DecidableEq Point] in
theorem verifyShuffles_ok (n : Nat) :
    ∃ err, verifyShuffles crypto shuffledPublicKeys proofs n = .ok err := by
  suffices ∀ (js : List Nat) (e : Option String), ∃ err,
      js.foldlM (verifyTurn crypto shuffledPublicKeys proofs) e = .ok err from this _ none
  intro js
  induction js with
  | nil => exact fun e => ⟨e, rfl⟩
  | cons j js ih =>
    intro e
    obtain ⟨e', he'⟩ := verifyTurn_ok crypto shuffledPublicKeys proofs e j
    simp only [List.foldlM_cons, he', bind, Except.bind]
    exact ih e'

omit [DecidableEq Scalar] [DecidableEq Point] in
/-- Whatever the verifier says, the loop lets the call go on. -/
@[simp] theorem verifyShuffles_bind {α : Type} (n : Nat) (k : Except String α) :
    (verifyShuffles crypto shuffledPublicKeys proofs n >>= fun _ => k) = k := by
  obtain ⟨e, he⟩ := verifyShuffles_ok crypto shuffledPublicKeys proofs n
  rw [he]; rfl

end Verify

/-! ## The search for the trustee's own entry -/

/-- `allKeyEqual` stays true only if both lists have every compared index
and agree there. -/
theorem keysEqualFrom_true {ephemeralKeys row : List Point} {ks : List Nat}
    (h : keysEqualFrom ephemeralKeys row ks = .ok true) :
    ∀ k ∈ ks, ∃ x, ephemeralKeys[k]? = some x ∧ row[k]? = some x := by
  induction ks with
  | nil => simp
  | cons k ks ih =>
    simp only [keysEqualFrom] at h
    obtain ⟨a, ha, h⟩ := except_bind_eq_ok.mp h
    obtain ⟨b, hb, h⟩ := except_bind_eq_ok.mp h
    have hab : a = b := by by_contra hne; simp [hne] at h
    simp only [hab, ne_eq, not_true_eq_false, if_false] at h
    intro k' hk'
    rcases List.mem_cons.mp hk' with rfl | hk'
    · exact ⟨a, sliceIndex_eq_ok.mp ha, hab ▸ sliceIndex_eq_ok.mp hb⟩
    · exact ih h k' hk'

/-- A `foldlM` over a flag ends `true` only if the flag started `true` or
some turn set it. -/
theorem foldlM_flag_true {f : Bool → Nat → Except String Bool} {Q : Nat → Prop}
    (hf : ∀ found j b, f found j = .ok b → b = true → found = true ∨ Q j) :
    ∀ (js : List Nat) (found : Bool), js.foldlM f found = .ok true → found = true ∨ ∃ j ∈ js, Q j
  | [], found, h => .inl (by simpa [pure, Except.pure] using h)
  | j :: js, found, h => by
    simp only [List.foldlM_cons] at h
    obtain ⟨b, hb, h⟩ := except_bind_eq_ok.mp h
    rcases foldlM_flag_true hf js b h with rfl | ⟨j', hj', hq⟩
    · exact (hf found j true hb rfl).imp id fun hq => ⟨j, List.mem_cons_self _ _, hq⟩
    · exact .inr ⟨j', List.mem_cons_of_mem _ hj', hq⟩

/-- `ownPermutationFound` is only set by an entry with the trustee's base,
proof and first `nClients` keys. -/
theorem ownPermutationFound_true {ephemeralKeys : List Point} {tShares : Scalar} {tProof : Bytes}
    {shares : List Scalar} {shuffledPublicKeys : List (List Point)} {proofs : List Bytes}
    {nClients : Nat}
    (h : ownPermutationFound ephemeralKeys tShares tProof shares shuffledPublicKeys proofs nClients =
      .ok true) :
    ∃ j : Nat, shares[j]? = some tShares ∧ proofs[j]? = some tProof ∧ ∃ row : List Point,
      shuffledPublicKeys[j]? = some row ∧
      ∀ k < nClients, ∃ x, ephemeralKeys[k]? = some x ∧ row[k]? = some x := by
  refine Exists.imp (fun _ => And.right)
    ((foldlM_flag_true ?_ _ false h).resolve_left Bool.false_ne_true)
  -- one turn sets the flag only at an entry of the trustee's
  intro found j b hb hbt
  obtain ⟨sj, hsj, hb⟩ := except_bind_eq_ok.mp hb
  obtain ⟨pj, hpj, hb⟩ := except_bind_eq_ok.mp hb
  split at hb
  case isTrue hc =>
    obtain ⟨row, hrow, hb⟩ := except_bind_eq_ok.mp hb
    obtain ⟨ak, hak, hb⟩ := except_bind_eq_ok.mp hb
    cases hb
    cases found
    · simp only [Bool.or_false] at hbt
      exact .inr ⟨hc.1 ▸ sliceIndex_eq_ok.mp hsj, hc.2 ▸ sliceIndex_eq_ok.mp hpj, row,
        sliceIndex_eq_ok.mp hrow, fun k hk => keysEqualFrom_true (hbt ▸ hak) k (List.mem_range.mpr hk)⟩
    · exact .inl rfl
  case isFalse => cases hb; exact .inl hbt

/-! ## What a signature certifies -/

namespace NeffShuffleTrusteeView

/-- The verifier does not matter. -/
theorem receivedTranscriptFromRelay_pairShuffleVerify (t : NeffShuffleTrusteeView Scalar Point)
    (crypto : TranscriptCrypto Scalar Point) (shares : List Scalar)
    (shuffledPublicKeys : List (List Point)) (proofs : List Bytes)
    (verify : List Point → List Point → Bytes → Option String) :
    t.receivedTranscriptFromRelay { crypto with pairShuffleVerify := verify } shares
      shuffledPublicKeys proofs = t.receivedTranscriptFromRelay crypto shares shuffledPublicKeys proofs := by
  simp only [receivedTranscriptFromRelay, verifyShuffles_bind]
  rfl

/-- **What a signature certifies.** If the trustee signs, it had stored a
base, a nonempty key list and a proof; the three transcript lists have one
nonzero length; some entry `j` has the trustee's base and proof, and agrees
with its keys on the first `len(shuffledPublicKeys[0])` positions (both lists
that long). -/
theorem receivedTranscriptFromRelay_signs {t : NeffShuffleTrusteeView Scalar Point}
    {crypto : TranscriptCrypto Scalar Point} {shares : List Scalar}
    {shuffledPublicKeys : List (List Point)} {proofs : List Bytes} {msg : TruRelShuffleSig}
    (h : t.receivedTranscriptFromRelay crypto shares shuffledPublicKeys proofs = .ok msg) :
    (∃ tShares ephemeralKeys tProof, t.shares = some tShares ∧
      t.ephemeralKeys = some ephemeralKeys ∧ 0 < ephemeralKeys.length ∧ t.proof = some tProof ∧
      shares.length = shuffledPublicKeys.length ∧ shares.length = proofs.length ∧
      0 < shares.length ∧
      ∃ j : Nat, shares[j]? = some tShares ∧ proofs[j]? = some tProof ∧ ∃ row : List Point,
        shuffledPublicKeys[j]? = some row ∧ ∀ k < (shuffledPublicKeys.getD 0 []).length,
          ∃ x, ephemeralKeys[k]? = some x ∧ row[k]? = some x) ∧
    msg.trusteeID = t.trusteeId := by
  obtain ⟨tShares, hs⟩ : ∃ v, t.shares = some v := by
    cases hx : t.shares <;> simp_all [receivedTranscriptFromRelay]
  obtain ⟨ephemeralKeys, he⟩ : ∃ v, t.ephemeralKeys = some v := by
    cases hx : t.ephemeralKeys <;> simp_all [receivedTranscriptFromRelay]
  obtain ⟨tProof, hp⟩ : ∃ v, t.proof = some v := by
    cases hx : t.proof
    · simp only [receivedTranscriptFromRelay, hs, he, hx] at h; split at h <;> cases h
    · exact ⟨_, rfl⟩
  simp only [receivedTranscriptFromRelay, hs, he, hp] at h
  split at h
  · cases h
  rename_i hlen
  split at h
  · cases h
  rename_i hsize
  simp only [not_or, not_not] at hsize
  obtain ⟨row0, hrow0, h⟩ := except_bind_eq_ok.mp h
  rw [verifyShuffles_bind] at h
  obtain ⟨found, hfound, h⟩ := except_bind_eq_ok.mp h
  split at h
  · cases h
  rename_i hf
  simp only [Bool.not_eq_true', Bool.not_eq_false] at hf
  subst hf
  obtain ⟨blob, -, h⟩ := except_bind_eq_ok.mp h
  split at h
  · cases h
  cases h
  have h0 := sliceIndex_eq_ok.mp hrow0
  refine ⟨⟨tShares, ephemeralKeys, tProof, hs, he, Nat.pos_of_ne_zero hlen, hp, hsize.1, hsize.2,
    ?_, ?_⟩, rfl⟩
  · rw [hsize.1]; exact (List.getElem?_eq_some_iff.mp h0).1
  · simpa [List.getD_eq_getElem?_getD, h0] using ownPermutationFound_true hfound

end NeffShuffleTrusteeView

/-- A forged transcript the trustee signs. It stored base `6`, keys
`[21, 15]` and the zero proof, and its verifier rejects every step. It signs
a two-step transcript whose second step the verifier rejects, and a one-step
transcript whose key list is empty. -/
theorem receivedTranscriptFromRelay_forged :
    let t : NeffShuffleTrusteeView ℕ ℕ :=
      ⟨0, some 1, some 1, some 3, some 6, some (List.replicate 50 0), some [21, 15]⟩
    let rejectAll : TranscriptCrypto ℕ ℕ :=
      ⟨fun _ _ _ => some "invalid", fun s => some [s.toUInt8], fun p => some [p.toUInt8],
        fun _ blob => blob⟩
    rejectAll.pairShuffleVerify [21, 15] [1, 2] (List.replicate 50 0) = some "invalid" ∧
    t.receivedTranscriptFromRelay rejectAll [6, 12] [[21, 15], [1, 2]]
      [List.replicate 50 0, List.replicate 50 0] = .ok ⟨0, [12, 1, 2]⟩ ∧
    t.receivedTranscriptFromRelay rejectAll [6] [[]] [List.replicate 50 0] = .ok ⟨0, [6]⟩ :=
  ⟨rfl, rfl, rfl⟩

end Prifi
