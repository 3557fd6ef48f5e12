import Prifi.Bytes
import Mathlib.GroupTheory.Perm.Basic
import Mathlib.Algebra.BigOperators.Group.List
import Mathlib.Algebra.Group.Action.Defs
import Mathlib.Logic.Equiv.Fin
import Mathlib.Algebra.SMulWithZero
import Mathlib.Algebra.GroupWithZero.Nat

/-!
# The Neff shuffle, trustee side: one shuffle and a chain of them

Before the DC-net starts, the trustees take turns on the clients' ephemeral
keys: each multiplies the base and every key by a fresh secret scalar and
shuffles the key positions (`ReceivedShuffleFromRelay`). The output of one
trustee is the input of the next.

Scalars and points are abstract: a monoid `Scalar` acting on `Point`
(`Point().Mul(p, c)` is `c • p`). `default : Point` stands for the `nil`
entries of `make([]abstract.Point, n)`.

- `scatter_permList`: the loop `ephPublicKeys3[v] = ephPublicKeys2[i]` over
  the list `rand.Perm(n)` returns puts at position `k` the key from position
  `σ⁻¹ k`: it is a true shuffle, every key lands once.
- `receivedShuffleFromRelay_ok` (**one shuffle**): the three panics of the
  nil and empty inputs, and otherwise base `s * c` and keys
  `k ↦ c • K[σ⁻¹ k]`.
- `shuffleChain_ok` (**a chain**): after `M` trustees, the base is
  `s₀ * c₀ * ⋯ * c_{M-1}` and key `k` is `(c_{M-1} * ⋯ * c₀) • K₀[π k]`,
  where `π = σ₀⁻¹ * ⋯ * σ_{M-1}⁻¹` (`chainPerm`), the identity when the key
  positions are not shuffled.
-/

namespace Prifi

/-- `neffShuffleTrusteeView`: a trustee's share of the Neff shuffle. The
fields the code checks against `nil` are options. -/
structure NeffShuffleTrusteeView (Scalar Point : Type) where
  trusteeId : Int
  privateKey : Option Scalar
  publicKey : Option Point
  secretCoeff : Option Scalar
  shares : Option Scalar
  proof : Option Bytes
  ephemeralKeys : Option (List Point)

/-- `TRU_REL_TELL_NEW_BASE_AND_EPH_PKS`. -/
structure TruRelTellNewBaseAndEphPks (Scalar Point : Type) where
  newBase : Scalar
  newEphPks : List Point
  proof : Bytes

namespace NeffShuffleTrusteeView

variable {Scalar Point : Type}

/-- `init(trusteeId, private, public)`. -/
def init (t : NeffShuffleTrusteeView Scalar Point) (trusteeId : Int) (privateKey : Option Scalar)
    (publicKey : Option Point) : Except String (NeffShuffleTrusteeView Scalar Point) :=
  if trusteeId < 0 then .error "Cannot shuffle without a valid id (>= 0)"
  else match privateKey, publicKey with
    | none, _ => .error "Cannot shuffle without a private key."
    | some _, none => .error "Cannot shuffle without a public key."
    | some _, some _ => .ok { t with trusteeId, privateKey, publicKey }

end NeffShuffleTrusteeView

/-! ## Shuffling the key positions -/

/-- The `[]int` that `rand.Perm(n)` returns for the random permutation `σ`:
`[σ 0, …, σ (n-1)]`. -/
def permList {n : Nat} (σ : Equiv.Perm (Fin n)) : List Nat :=
  List.ofFn fun i => (σ i : Nat)

/-- `for i, v := range perm { ephPublicKeys3[v] = ephPublicKeys2[i] }`,
into `ephPublicKeys3 := make([]abstract.Point, len(ephPublicKeys2))`. -/
def scatter [Inhabited Point] (src : List Point) (perm : List Nat) : List Point :=
  (List.range perm.length).foldl (fun dst i => dst.set (perm.getD i 0) (src.getD i default))
    (List.replicate src.length default)

section Scatter

variable {Point : Type} [Inhabited Point]

@[simp] theorem length_permList {n : Nat} (σ : Equiv.Perm (Fin n)) : (permList σ).length = n := by
  simp [permList]

theorem getD_permList {n : Nat} (σ : Equiv.Perm (Fin n)) (i : Fin n) :
    (permList σ).getD i 0 = σ i := by
  simp [permList, List.getD_eq_getElem?_getD]

/-- After the first `m` turns of the loop, position `k` holds the key from
`σ⁻¹ k` if that one was already moved, and `nil` otherwise. -/
theorem scatter_prefix {n : Nat} (σ : Equiv.Perm (Fin n)) (src : List Point)
    (hsrc : src.length = n) {m : Nat} (hm : m ≤ n) :
    (List.range m).foldl (fun dst i => dst.set ((permList σ).getD i 0) (src.getD i default))
      (List.replicate src.length default) =
      List.ofFn fun k => if (σ.symm k : Nat) < m then src.getD (σ.symm k) default else default := by
  induction m with
  | zero => simp [hsrc, List.ofFn_const]
  | succ m ih =>
    rw [List.range_succ, List.foldl_append, ih (by omega), List.foldl_cons, List.foldl_nil,
      getD_permList σ ⟨m, by omega⟩]
    refine List.ext_getElem (by simp) fun k hk _ => ?_
    simp only [List.length_set, List.length_ofFn] at hk
    rw [List.getElem_set, List.getElem_ofFn, List.getElem_ofFn]
    by_cases hkm : (σ ⟨m, by omega⟩ : Nat) = k
    · have : σ.symm ⟨k, hk⟩ = ⟨m, by omega⟩ := by
        rw [Equiv.symm_apply_eq]; exact Fin.ext hkm.symm
      simp [hkm, this]
    · have : (σ.symm ⟨k, hk⟩ : Nat) ≠ m := fun h => hkm (by
        rw [show (⟨m, by omega⟩ : Fin n) = σ.symm ⟨k, hk⟩ from Fin.ext h.symm]; simp)
      simp only [hkm, if_false]
      split_ifs <;> first | rfl | omega

/-- **The scatter loop is a shuffle**: key `k` of the result is key
`σ⁻¹ k` of the input. -/
theorem scatter_permList {n : Nat} (σ : Equiv.Perm (Fin n)) (src : List Point)
    (hsrc : src.length = n) :
    scatter src (permList σ) = List.ofFn fun k => src.getD (σ.symm k) default := by
  rw [scatter, length_permList, scatter_prefix σ src hsrc le_rfl]
  simp

end Scatter

/-! ## One shuffle -/

namespace NeffShuffleTrusteeView

variable {Scalar Point : Type} [Monoid Scalar] [MulAction Scalar Point] [Inhabited Point]

/-- `ReceivedShuffleFromRelay(lastShares, clientPublicKeys, shuffleKeyPositions)`.
Its two random draws are inputs: `secretCoeff` (`Scalar().Pick`) and
`randPerm n`, the permutation behind `rand.Perm(n)`. -/
def receivedShuffleFromRelay (t : NeffShuffleTrusteeView Scalar Point) (lastShares : Option Scalar)
    (clientPublicKeys : Option (List Point)) (shuffleKeyPositions : Bool) (secretCoeff : Scalar)
    (randPerm : (n : Nat) → Equiv.Perm (Fin n)) :
    Except String (NeffShuffleTrusteeView Scalar Point × TruRelTellNewBaseAndEphPks Scalar Point) :=
  match lastShares, clientPublicKeys with
  | none, _ => .error "Cannot perform a shuffle is lastShare is nil"
  | some _, none => .error "Cannot perform a shuffle is clientPublicKeys is nil"
  | some lastShares, some clientPublicKeys =>
    if clientPublicKeys.length = 0 then
      .error "Cannot perform a shuffle is len(clientPublicKeys) is 0"
    else
      let newShares := lastShares * secretCoeff
      let ephPublicKeys2 := clientPublicKeys.map (secretCoeff • ·)
      let ephPublicKeys2 := if shuffleKeyPositions then
          scatter ephPublicKeys2 (permList (randPerm ephPublicKeys2.length))
        else ephPublicKeys2
      let proof := List.replicate 50 0
      .ok ({ t with
          secretCoeff := some secretCoeff, shares := some newShares,
          ephemeralKeys := some ephPublicKeys2, proof := some proof },
        ⟨newShares, ephPublicKeys2, proof⟩)

/-- The position map of one shuffle: new position `k` holds the key from
`positionPerm k`. -/
def positionPerm (shuffleKeyPositions : Bool) (randPerm : (n : Nat) → Equiv.Perm (Fin n))
    (n : Nat) : Equiv.Perm (Fin n) :=
  if shuffleKeyPositions then (randPerm n).symm else 1

/-- **One shuffle.** On a base and `n ≥ 1` keys the call succeeds; it
returns and stores base `s * c` and the keys `k ↦ c • K[σ⁻¹ k]`. -/
theorem receivedShuffleFromRelay_ok (t : NeffShuffleTrusteeView Scalar Point) (s c : Scalar)
    {n : Nat} (keys : List Point) (hkeys : keys.length = n) (hn : 0 < n) (b : Bool)
    (randPerm : (n : Nat) → Equiv.Perm (Fin n)) :
    t.receivedShuffleFromRelay (some s) (some keys) b c randPerm =
      let newKeys := List.ofFn fun k => c • keys.getD (positionPerm b randPerm n k) default
      .ok ({ t with
          secretCoeff := some c, shares := some (s * c), ephemeralKeys := some newKeys,
          proof := some (List.replicate 50 0) }, ⟨s * c, newKeys, List.replicate 50 0⟩) := by
  subst hkeys
  have hmap : (keys.map (c • ·)).length = keys.length := List.length_map _ _
  have hnew : (if b then scatter (keys.map (c • ·)) (permList (randPerm (keys.map (c • ·)).length))
      else keys.map (c • ·)) =
        List.ofFn fun k => c • keys.getD (positionPerm b randPerm keys.length k) default := by
    rw [hmap]
    cases b with
    | false =>
      refine List.ext_getElem (by simp) fun k h _ => ?_
      simp [positionPerm, List.getElem?_eq_getElem (show k < keys.length by simpa using h)]
    | true =>
      rw [if_pos rfl, scatter_permList _ _ hmap]
      congr 1; funext k
      simp [positionPerm, List.getElem?_eq_getElem (Fin.isLt ((randPerm keys.length).symm k))]
  simp only [receivedShuffleFromRelay, Nat.pos_iff_ne_zero.mp hn, if_false, hnew]

end NeffShuffleTrusteeView

/-! ## A chain of shuffles -/

/-- One trustee's turn in the chain: its view and its two random draws. -/
structure ShuffleTurn (Scalar Point : Type) where
  view : NeffShuffleTrusteeView Scalar Point
  secretCoeff : Scalar
  randPerm : (n : Nat) → Equiv.Perm (Fin n)

variable {Scalar Point : Type} [Monoid Scalar] [MulAction Scalar Point] [Inhabited Point]

/-- Modelled from the spec: the relay's side of the shuffle (forwarding
each `TRU_REL_TELL_NEW_BASE_AND_EPH_PKS` to the next trustee) is not in the
repository. Trustee `j` runs `ReceivedShuffleFromRelay` on trustee `j-1`'s
`NewBase` and `NewEphPks`. -/
def shuffleChain (shuffleKeyPositions : Bool) :
    List (ShuffleTurn Scalar Point) → Scalar → List Point → Except String (Scalar × List Point)
  | [], base, keys => .ok (base, keys)
  | turn :: turns, base, keys => do
    let (_, msg) ← turn.view.receivedShuffleFromRelay (some base) (some keys) shuffleKeyPositions
      turn.secretCoeff turn.randPerm
    shuffleChain shuffleKeyPositions turns msg.newBase msg.newEphPks

/-- The position map of a chain: `σ₀⁻¹ * ⋯ * σ_{M-1}⁻¹`. -/
def chainPerm (shuffleKeyPositions : Bool) (n : Nat) :
    List (ShuffleTurn Scalar Point) → Equiv.Perm (Fin n)
  | [] => 1
  | turn :: turns =>
    NeffShuffleTrusteeView.positionPerm shuffleKeyPositions turn.randPerm n *
      chainPerm shuffleKeyPositions n turns

omit [Monoid Scalar] [MulAction Scalar Point] [Inhabited Point] in
@[simp] theorem chainPerm_false (n : Nat) (turns : List (ShuffleTurn Scalar Point)) :
    chainPerm false n turns = 1 := by
  induction turns with
  | nil => rfl
  | cons turn turns ih => simp [chainPerm, ih, NeffShuffleTrusteeView.positionPerm]

/-- **An honest shuffle chain permutes and rescales the keys.** From base
`s₀` and `n ≥ 1` keys `K₀`, trustees with coefficients `c₀ … c_{M-1}` end
with base `s₀ * c₀ * ⋯ * c_{M-1}` and keys
`k ↦ (c_{M-1} * ⋯ * c₀) • K₀[π k]`, where `π` is `chainPerm`, the identity
when the positions are not shuffled. -/
theorem shuffleChain_ok (b : Bool) (turns : List (ShuffleTurn Scalar Point)) (s₀ : Scalar)
    {n : Nat} (K₀ : List Point) (hK : K₀.length = n) (hn : 0 < n) :
    shuffleChain b turns s₀ K₀ = .ok (s₀ * (turns.map ShuffleTurn.secretCoeff).prod,
      List.ofFn fun k => (turns.map ShuffleTurn.secretCoeff).reverse.prod •
        K₀.getD (chainPerm b n turns k) default) ∧
    (b = false → chainPerm b n turns = 1) := by
  refine ⟨?_, fun hb => hb ▸ chainPerm_false n turns⟩
  induction turns generalizing s₀ K₀ with
  | nil =>
    simp only [shuffleChain, chainPerm, List.map_nil, List.prod_nil, mul_one, List.reverse_nil,
      one_smul, Equiv.Perm.one_apply]
    congr 2
    refine List.ext_getElem (by simp [hK]) fun k h₁ _ => ?_
    simp [List.getElem?_eq_getElem h₁]
  | cons turn turns ih =>
    simp only [shuffleChain, NeffShuffleTrusteeView.receivedShuffleFromRelay_ok _ _ _ K₀ hK hn,
      bind, Except.bind]
    rw [ih _ _ (by simp)]
    congr 2
    · simp [mul_assoc]
    · refine List.ext_getElem (by simp) fun k h₁ h₂ => ?_
      simp only [List.length_ofFn] at h₁
      have hk : ((chainPerm b n turns ⟨k, h₁⟩ : Fin n) : Nat) < n := Fin.isLt _
      simp [chainPerm, List.getD_eq_getElem?_getD, hk, mul_smul]

/-- Keys `[5, 7]` and base `2`, one trustee with coefficient `3` whose
`rand.Perm(2)` is `[1, 0]`: base `6`, keys `[3 • 7, 3 • 5]`. -/
theorem shuffleChain_two_keys :
    ([5, 7] : List ℕ).length = 2 ∧ 0 < 2 ∧
    shuffleChain true [⟨⟨0, none, none, none, none, none, none⟩, 3, finRotate⟩] (2 : ℕ) [5, 7] =
      .ok (6, [21, 15]) :=
  ⟨rfl, by decide, (shuffleChain_ok true _ 2 [5, 7] rfl (by decide)).1.trans rfl⟩

end Prifi
