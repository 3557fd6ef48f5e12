import Prifi.DCNet.Entity

/-!
# Keystream positions over a run of `EncodeForRound`

The DC-net is only correct if every pair of peers reads the same pad for the
same round. `EncodeForRound` (`dcnet.go:131`) tries to make the position of
each peer PRNG a function of the round alone: rounds in the future are
skipped by reading and dropping `DCNetContentSize` bytes per round. This
module says exactly what the code achieves.

- `EncodeRun e rs e'`: a run of successful `EncodeForRound` calls with round
  ids `rs` (any ownership and payload).
- `EncodeRun.entity_eq` (**run lemma**): after the run the round counter is
  the last round id, and every PRNG has read
  `(lastRound - startRound + #calls) * DCNetContentSize` more bytes. So the
  position depends on the round ids of the run — and on how many calls there
  were: the counter is not moved past a round once its cell is encoded, so
  the next call re-reads one round's worth of keystream it should skip.
- `EncodeRun.position_fresh`: from a fresh entity the pad of the last call
  `r_k` sits at `(r_k + k - 1) * DCNetContentSize`, not at
  `r_k * DCNetContentSize`.
-/

namespace Prifi

/-- A run of successful `EncodeForRound` calls with round ids `rs`. -/
inductive EncodeRun : DCNetEntity → List Int → DCNetEntity → Prop
  | nil (e : DCNetEntity) : EncodeRun e [] e
  | cons {e e₁ e₂ : DCNetEntity} {r : Int} {o : Bool} {p : Option Bytes} {c : DCNetCipher}
      {rs : List Int} :
      e.encodeForRound r o p = .ok (c, e₁) → EncodeRun e₁ rs e₂ → EncodeRun e (r :: rs) e₂

@[simp] theorem Prng.advance_zero (g : Prng) : g.advance 0 = g := rfl

/-- **Run lemma.** -/
theorem EncodeRun.entity_eq {e e' : DCNetEntity} {rs : List Int} (h : EncodeRun e rs e') :
    e.currentRound ≤ e'.currentRound ∧ e'.currentRound = rs.getLastD e.currentRound ∧
      e' = { e with
        sharedPRNGs := e.sharedPRNGs.map (fun g =>
          g.advance (((e'.currentRound - e.currentRound).toNat + rs.length) * e.contentLength)),
        currentRound := e'.currentRound } := by
  induction h with
  | nil e => simp
  | @cons e e₁ e₂ r o p c rs hstep _ ih =>
    obtain ⟨hr, rfl⟩ := e.encodeForRound_entity hstep
    obtain ⟨hle, hlast, heq⟩ := ih
    simp only at hle hlast
    refine ⟨by omega, by rw [List.getLastD_cons]; exact hlast, ?_⟩
    have hsum : (r - e.currentRound).toNat + 1 + ((e₂.currentRound - r).toNat + rs.length) =
        (e₂.currentRound - e.currentRound).toNat + (rs.length + 1) := by omega
    rw [heq]
    simp only [DCNetEntity.contentLength_mk_sharedPRNGs, List.map_map, Function.comp_def,
      Prng.advance_advance, List.length_cons, ← Nat.add_mul, hsum]

/-- **Positions from a fresh entity**: after `k` calls ending at round
`r_k`, every PRNG of an entity built by `NewDCNetEntity` has read
`(r_k + k) * DCNetContentSize` bytes. -/
theorem EncodeRun.position_of_newDCNetEntity {suite : CryptoSuite} {i : Int}
    {ent : DCNetEntityType} {size : Int} {eqp dis : Bool} {keys : List Prng}
    {e e' : DCNetEntity} {rs : List Int}
    (hnew : newDCNetEntity suite i ent size eqp dis keys = .ok e) (h : EncodeRun e rs e') :
    ∀ g ∈ e'.sharedPRNGs, g.position = ((rs.getLastD 0).toNat + rs.length) * e.contentLength := by
  obtain ⟨-, -, -, -, -, -, hprngs, hround, -⟩ := newDCNetEntity_ok hnew
  obtain ⟨-, hlast, heq⟩ := h.entity_eq
  intro g hg
  rw [heq] at hg
  simp only [List.mem_map] at hg
  obtain ⟨g₀, hg₀, rfl⟩ := hg
  have h0 : g₀.position = 0 := by
    rw [hprngs] at hg₀
    split at hg₀
    · obtain ⟨k, -, rfl⟩ := List.mem_map.mp hg₀; rfl
    · cases hg₀
  simp [h0, hlast, hround]

/-- The failing input of the round-position law: a fresh client with one
peer and a one-byte cell (keystream `k ↦ k`) encodes round 0, then round 1.
Its round-1 pad is keystream byte 2 and its PRNG ends at position 3; a client
that skipped round 0 uses byte 1 for round 1 and ends at position 2. -/
theorem encodeForRound_round_one_pad_after_round_zero :
    ((newDCNetEntity .counting 0 .client 1 false false [⟨fun _ => 0, 0⟩] >>= fun e =>
        e.encodeForRound 0 false none >>= fun r₁ => r₁.2.encodeForRound 1 false none).map
        fun r => (r.1.payload, r.2.sharedPRNGs.map Prng.position)) = .ok ([2], [3]) ∧
    ((newDCNetEntity .counting 0 .client 1 false false [⟨fun _ => 0, 0⟩] >>= fun e =>
        e.encodeForRound 1 false none).map
        fun r => (r.1.payload, r.2.sharedPRNGs.map Prng.position)) = .ok ([1], [2]) :=
  ⟨rfl, rfl⟩

end Prifi
