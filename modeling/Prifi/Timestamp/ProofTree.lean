import Prifi.Bytes

/-!
# Merkle proof trees (`timestamp/proof.go`)

`ProofTree` pads its leaves with zero ids to a power of two, hashes them
pairwise level by level up to a root, and gives each leaf a proof: the root,
then the siblings on the leaf's path, from the level below the root down to
the leaves. `Proof.Calc` folds `hashNode` over a proof from its last entry
down to its second (it never reads the first), and `Proof.Check` compares the
result with the root. `hashNode` sorts its two inputs, so a proof need not
say on which side each sibling is.

A proof keeps only the siblings that are not `nil`, and nothing else tells
`nil` from a hash:

- `calcRoot_path`: folding the siblings of a path from the leaves upward
  reaches the node on the path, level by level;
- **`proofTree_check`**: for a hash whose `Sum` appends `Size()` bytes, and
  leaves none of which is `nil`, every proof checks against the root;
- `proofTree_nil_leaf_fails`: a `nil` leaf is dropped from its sibling's
  proof, whose check then fails;
- `check_accepts_non_leaves`: even under an injective hash, `Check` accepts
  the root itself (with an empty proof) and a splice of two leaves (with a
  proof as long as an honest one): leaves and inner nodes are hashed alike,
  without lengths.
-/

namespace Prifi

/-! ## The model -/

/-- `HashId`, a hash as Go's `[]byte`: `none` is `nil`, which `ProofTree`
tells apart from an empty id. -/
abbrev HashId := Option Bytes

/-- A proof (`type Proof []HashId`). -/
abbrev Proof := List HashId

/-- The bytes of an id; `nil` has none. -/
def idBytes (h : HashId) : Bytes := h.getD []

@[simp] theorem idBytes_none : idBytes none = [] := rfl

@[simp] theorem idBytes_some (b : Bytes) : idBytes (some b) = b := rfl

/-- `newHash func() hash.Hash`, as `proof.go` uses it: `Size()`, and the
digest `Sum` appends for the bytes written since the hash was made or reset. -/
structure NewHash where
  size : Nat
  digest : Bytes → Bytes

/-- The `hash.Hash` contract: `Sum` appends `Size()` bytes. -/
def NewHash.SumsSize (newHash : NewHash) : Prop := ∀ b, (newHash.digest b).length = newHash.size

/-- `bytes.Compare`: lexicographic order, as `-1`, `0` or `1`. -/
def bytesCompare : Bytes → Bytes → Int
  | [], [] => 0
  | [], _ :: _ => -1
  | _ :: _, [] => 1
  | x :: xs, y :: ys => if x < y then -1 else if y < x then 1 else bytesCompare xs ys

/-- `h.Sum(buf)`, that is `append(buf, digest...)`: a `nil` buffer stays
`nil` when the digest is empty. -/
def sumInto (buf : HashId) (digest : Bytes) : HashId :=
  match buf, digest with
  | none, [] => none
  | buf, digest => some (idBytes buf ++ digest)

/-- `hashContext.hashNode(buf, left, right)` (`proof.go:27`): swap the ids
so that `left <= right`, write both, and `Sum(buf)`. -/
def hashNode (newHash : NewHash) (buf left right : HashId) : HashId :=
  let (left, right) :=
    if bytesCompare (idBytes left) (idBytes right) > 0 then (right, left) else (left, right)
  sumInto buf (newHash.digest (idBytes left ++ idBytes right))

/-- The loop of `Proof.Calc` over `p[len-1]`, …, `p[1]`: hash the running
value with the next entry into `buf[:0]`, and keep the result as `buf`. -/
def calcLoop (newHash : NewHash) : (buf leaf : HashId) → List HashId → HashId
  | _, leaf, [] => leaf
  | buf, leaf, x :: xs =>
    let leaf := hashNode newHash (buf.map fun _ => []) leaf x
    calcLoop newHash leaf leaf xs

/-- `Proof.Calc(newHash, leaf)` (`proof.go:50`; `calc` is a Lean keyword).
`p[0]` is never read. -/
def Proof.calcRoot (newHash : NewHash) (p : Proof) (leaf : HashId) : HashId :=
  calcLoop newHash none leaf (p.drop 1).reverse

/-- `Proof.Check(newHash, root, leaf)` (`proof.go:61`):
`subtle.ConstantTimeCompare` returns 1 exactly on equal bytes. -/
def Proof.check (newHash : NewHash) (p : Proof) (root leaf : HashId) : Bool :=
  idBytes (Proof.calcRoot newHash p leaf) == idBytes root

/-- `sibling(i)` (`proof.go:91`), on the indices `ProofTree` passes, which are
not negative. -/
def sibling (i : Nat) : Nat := if i &&& 1 = 1 then i - 1 else i + 1

/-- The depth loop `for n := 1; n < nleaves; n <<= 1 { depth++ }`; `fuel`
bounds the iterations. -/
def treeDepth (nleaves : Nat) : (fuel n depth : Nat) → Nat
  | 0, _, depth => depth
  | fuel + 1, n, depth => if n < nleaves then treeDepth nleaves fuel (n <<< 1) (depth + 1) else depth

/-- One pass of the level loop: `nnode` hashes of pairs of `tprev`, then a
`nil` for an odd one out. -/
def nextLevel (newHash : NewHash) (tprev : List HashId) : List HashId :=
  let nnext := (tprev.length + 1) >>> 1
  let nnode := tprev.length >>> 1
  (List.range nnode).map (fun i =>
      hashNode newHash none (tprev.getD (i * 2) none) (tprev.getD (i * 2 + 1) none)) ++
    List.replicate (nnext - nnode) none

/-- The level loop `for d := depth - 1; d >= 0; d--`, which fills `tree[d]`
from `tree[d+1]`: `treeLevels newHash k leaves` is `tree[0]`, …, `tree[k]`
for a tree of `k` levels over `leaves`. -/
def treeLevels (newHash : NewHash) : Nat → List HashId → List (List HashId)
  | 0, tprev => [tprev]
  | k + 1, tprev => treeLevels newHash k (nextLevel newHash tprev) ++ [tprev]

/-- The proof of leaf `i` (`proof.go:143`): the root, then
`tree[depth-d][sibling(i>>d)]` for `d` from `depth-1` down to 0, when it is
not `nil`. -/
def leafProof (tree : List (List HashId)) (depth i : Nat) (root : HashId) : Proof :=
  root :: ((List.range depth).reverse.map fun d =>
    (tree.getD (depth - d) []).getD (sibling (i >>> d)) none).filter (·.isSome)

/-- `ProofTree(newHash, leaves)` (`proof.go:100`): the root and one proof per
leaf. -/
def proofTree (newHash : NewHash) (leaves : List HashId) : Except String (HashId × List Proof) :=
  if leaves = [] then .ok (some [], [])
  else
    let nleavesArg := leaves.length
    let depth := treeDepth nleavesArg nleavesArg 1 0
    let nleaves := 1 <<< depth
    let leaves := leaves ++ List.replicate (nleaves - nleavesArg) (some (List.replicate newHash.size 0))
    let tree := treeLevels newHash depth leaves
    let tprev := tree.headD []
    if tprev.length ≠ 1 then .error "oops"
    else
      let root := tprev.headD none
      .ok (root, ((List.range nleaves).map fun i => leafProof tree depth i root).take nleavesArg)

/-! ## Hashing a node -/

theorem bytesCompare_swap (a b : Bytes) : bytesCompare b a = -bytesCompare a b := by
  induction a generalizing b with
  | nil => cases b <;> rfl
  | cons x xs ih =>
    cases b with
    | nil => rfl
    | cons y ys =>
      simp only [bytesCompare]
      by_cases hxy : x < y
      · simp [hxy, UInt8.lt_asymm hxy]
      · by_cases hyx : y < x <;> simp [hxy, hyx, ih]

theorem eq_of_bytesCompare_eq_zero {a b : Bytes} (h : bytesCompare a b = 0) : a = b := by
  induction a generalizing b with
  | nil => cases b <;> simp_all [bytesCompare]
  | cons x xs ih =>
    cases b with
    | nil => simp [bytesCompare] at h
    | cons y ys =>
      simp only [bytesCompare] at h
      by_cases hxy : x < y
      · simp [hxy] at h
      · by_cases hyx : y < x
        · simp [hxy, hyx] at h
        · simp only [hxy, hyx, if_false] at h
          rw [UInt8.eq_of_toBitVec_eq (BitVec.le_antisymm (UInt8.not_lt.mp hyx) (UInt8.not_lt.mp hxy)),
            ih h]

/-- The digest of a node over ids with bytes `a` and `b`, smaller first. -/
def nodeDigest (newHash : NewHash) (a b : Bytes) : Bytes :=
  newHash.digest (if bytesCompare a b > 0 then b ++ a else a ++ b)

/-- Sorting makes a node's digest independent of the order of its inputs. -/
theorem nodeDigest_comm (newHash : NewHash) (a b : Bytes) :
    nodeDigest newHash a b = nodeDigest newHash b a := by
  unfold nodeDigest
  rw [bytesCompare_swap a b]
  rcases lt_trichotomy (bytesCompare a b) 0 with h | h | h
  · rw [if_neg (by omega), if_pos (by omega)]
  · obtain rfl := eq_of_bytesCompare_eq_zero h; simp
  · rw [if_pos h, if_neg (by omega)]

@[simp] theorem idBytes_sumInto (buf : HashId) (digest : Bytes) :
    idBytes (sumInto buf digest) = idBytes buf ++ digest := by
  unfold sumInto; split <;> rfl

@[simp] theorem idBytes_hashNode (newHash : NewHash) (buf left right : HashId) :
    idBytes (hashNode newHash buf left right) =
      idBytes buf ++ nodeDigest newHash (idBytes left) (idBytes right) := by
  by_cases h : bytesCompare (idBytes left) (idBytes right) > 0 <;> simp [hashNode, nodeDigest, h]

/-- A node hashed into a `nil` buffer is `nil` exactly when its digest is
empty. -/
theorem hashNode_none_isSome (newHash : NewHash) (left right : HashId) :
    (hashNode newHash none left right).isSome ↔
      nodeDigest newHash (idBytes left) (idBytes right) ≠ [] := by
  by_cases h : bytesCompare (idBytes left) (idBytes right) > 0 <;>
    simp only [hashNode, nodeDigest, h, if_true, if_false] <;> unfold sumInto <;> split <;> simp_all

/-! ## The levels -/

section Levels

variable (newHash : NewHash)

theorem length_nextLevel (l : List HashId) : (nextLevel newHash l).length = (l.length + 1) / 2 := by
  simp only [nextLevel, Nat.shiftRight_eq_div_pow, List.length_append, List.length_map,
    List.length_range, List.length_replicate]
  omega

/-- Node `j` of the next level hashes nodes `2j` and `2j+1`. -/
theorem getD_nextLevel {l : List HashId} {j : Nat} (hj : j < l.length / 2) :
    (nextLevel newHash l).getD j none =
      hashNode newHash none (l.getD (j * 2) none) (l.getD (j * 2 + 1) none) := by
  rw [nextLevel, List.getD_append _ _ _ _ (by simpa [Nat.shiftRight_eq_div_pow] using hj),
    List.getD_eq_getElem _ _ (by simpa [Nat.shiftRight_eq_div_pow] using hj)]
  simp

/-- Levels above `2^D` leaves halve in size. -/
theorem length_iterate_nextLevel {l : List HashId} {D : Nat} (hl : l.length = 2 ^ D) {k : Nat}
    (hk : k ≤ D) : ((nextLevel newHash)^[k] l).length = 2 ^ (D - k) := by
  induction k with
  | zero => simpa using hl
  | succ k ih =>
    rw [Function.iterate_succ_apply', length_nextLevel, ih (by omega),
      show D - k = D - (k + 1) + 1 by omega, Nat.pow_succ]
    omega

theorem length_treeLevels (k : Nat) (l : List HashId) : (treeLevels newHash k l).length = k + 1 := by
  induction k generalizing l <;> simp_all [treeLevels]

/-- `tree[k-d]` is `d` levels above the leaves. -/
theorem getD_treeLevels (k : Nat) (l : List HashId) {d : Nat} (hd : d ≤ k) :
    (treeLevels newHash k l).getD (k - d) [] = (nextLevel newHash)^[d] l := by
  induction k generalizing l d with
  | zero => obtain rfl : d = 0 := by omega
            rfl
  | succ k ih =>
    rw [treeLevels]
    cases d with
    | zero => rw [List.getD_append_right _ _ _ _ (by simp [length_treeLevels])]; simp [length_treeLevels]
    | succ d =>
      rw [List.getD_append _ _ _ _ (by simp [length_treeLevels]; omega),
        show k + 1 - (d + 1) = k - d by omega, ih _ (by omega), Function.iterate_succ_apply]

/-- `tree[0]` is the top level. -/
theorem headD_treeLevels (k : Nat) (l : List HashId) :
    (treeLevels newHash k l).headD [] = (nextLevel newHash)^[k] l := by
  induction k generalizing l with
  | zero => rfl
  | succ k ih =>
    obtain ⟨t, ts, h⟩ := List.exists_cons_of_length_pos
      (by simp [length_treeLevels] : 0 < (treeLevels newHash k (nextLevel newHash l)).length)
    rw [treeLevels, Function.iterate_succ_apply, ← ih, h]
    rfl

/-! ## Paths -/

/-- A node's digest over a node of a level and its sibling is the digest
over the pair of nodes `2(j/2)` and `2(j/2)+1`, whichever of the two `j` is. -/
theorem nodeDigest_sibling (f : Nat → Bytes) (j : Nat) :
    nodeDigest newHash (f j) (f (sibling j)) = nodeDigest newHash (f (j / 2 * 2)) (f (j / 2 * 2 + 1)) := by
  rw [sibling, Nat.and_one_is_mod]
  split
  · rw [nodeDigest_comm]; congr 2 <;> omega
  · congr 2 <;> omega

/-- Leaf `i`'s node `d` levels up is in its level. -/
theorem shiftRight_lt {i D d : Nat} (hi : i < 2 ^ D) (hd : d ≤ D) : i >>> d < 2 ^ (D - d) := by
  rw [Nat.shiftRight_eq_div_pow, Nat.div_lt_iff_lt_mul (Nat.two_pow_pos d), ← Nat.pow_add,
    Nat.sub_add_cancel hd]
  exact hi

/-- The sibling of leaf `i`'s node below the top is in its level. -/
theorem sibling_shiftRight_lt {i D d : Nat} (hi : i < 2 ^ D) (hd : d < D) :
    sibling (i >>> d) < 2 ^ (D - d) := by
  have h := shiftRight_lt hi hd.le
  have := Nat.two_pow_pos (D - (d + 1))
  rw [show D - d = D - (d + 1) + 1 by omega, Nat.pow_succ] at h ⊢
  rw [sibling, Nat.and_one_is_mod]; split <;> omega

/-- One more step of `Proof.Calc`'s loop hashes its result with the next
entry. -/
theorem idBytes_calcLoop_append (buf x : HashId) (xs : List HashId) (y : HashId) :
    idBytes (calcLoop newHash buf x (xs ++ [y])) =
      nodeDigest newHash (idBytes (calcLoop newHash buf x xs)) (idBytes y) := by
  induction xs generalizing buf x with
  | nil => cases buf <;> simp [calcLoop]
  | cons z zs ih => exact ih _ _

/-- **A path's siblings lead up the tree**: folding the siblings of leaf
`i`'s path at levels `0, …, k-1` above the leaves into the leaf gives the
node on the path `k` levels up. -/
theorem calcRoot_path {leaves : List HashId} {D : Nat} (hl : leaves.length = 2 ^ D) {i : Nat}
    (hi : i < 2 ^ D) {k : Nat} (hk : k ≤ D) :
    idBytes (calcLoop newHash none (leaves.getD i none) ((List.range k).map fun d =>
        ((nextLevel newHash)^[d] leaves).getD (sibling (i >>> d)) none)) =
      idBytes (((nextLevel newHash)^[k] leaves).getD (i >>> k) none) := by
  induction k with
  | zero => simp [calcLoop]
  | succ k ih =>
    rw [List.range_succ, List.map_append, List.map_singleton, idBytes_calcLoop_append, ih (by omega),
      Function.iterate_succ_apply', Nat.shiftRight_succ]
    set L := (nextLevel newHash)^[k] leaves
    have hL : L.length = 2 * 2 ^ (D - (k + 1)) := by
      rw [length_iterate_nextLevel newHash hl (by omega), ← Nat.pow_succ']; congr 1; omega
    have hj : i >>> k < L.length := by
      rw [length_iterate_nextLevel newHash hl (by omega)]; exact shiftRight_lt hi (by omega)
    rw [getD_nextLevel newHash (by omega), idBytes_hashNode]
    exact nodeDigest_sibling newHash (fun x => idBytes (L.getD x none)) _

/-! ## Nodes that are not `nil` -/

/-- With a nonempty digest, the level above an even number of ids has no
`nil`. -/
theorem nextLevel_isSome (hsize : newHash.SumsSize) (hpos : 0 < newHash.size) {l : List HashId}
    (he : l.length % 2 = 0) : ∀ x ∈ nextLevel newHash l, x.isSome := by
  intro x hx
  rcases List.mem_append.mp hx with hx | hx
  · obtain ⟨j, -, rfl⟩ := List.mem_map.mp hx
    rw [hashNode_none_isSome]
    intro h
    have := congrArg List.length h
    rw [nodeDigest, hsize] at this
    simp at this; omega
  · have := (List.mem_replicate.mp hx).1
    simp only [Nat.shiftRight_eq_div_pow] at this; omega

/-- With a nonempty digest, no level above `2^D` ids that are not `nil` has
a `nil`. -/
theorem iterate_nextLevel_isSome (hsize : newHash.SumsSize) (hpos : 0 < newHash.size)
    {l : List HashId} {D : Nat} (hl : l.length = 2 ^ D) (hsome : ∀ x ∈ l, x.isSome) {k : Nat}
    (hk : k ≤ D) : ∀ x ∈ (nextLevel newHash)^[k] l, x.isSome := by
  cases k with
  | zero => exact hsome
  | succ k =>
    rw [Function.iterate_succ_apply']
    refine nextLevel_isSome newHash hsize hpos ?_
    rw [length_iterate_nextLevel newHash hl (by omega), show D - k = D - (k + 1) + 1 by omega,
      Nat.pow_succ, Nat.mul_mod_left]

theorem isSome_getD {l : List HashId} (h : ∀ x ∈ l, x.isSome) {j : Nat} (hj : j < l.length) :
    (l.getD j none).isSome := by
  rw [List.getD_eq_getElem _ _ hj]; exact h _ (List.getElem_mem hj)

/-- A digest of `Size()` bytes, when `Size()` is 0, makes `Proof.Calc`'s
result empty once it has hashed anything. -/
theorem idBytes_calcLoop_of_size_zero (hsize : newHash.SumsSize) (h0 : newHash.size = 0)
    (buf x : HashId) {xs : List HashId} (hxs : xs ≠ []) : idBytes (calcLoop newHash buf x xs) = [] := by
  obtain ⟨ys, y, rfl⟩ := (List.eq_nil_or_concat xs).resolve_left hxs
  rw [List.concat_eq_append, idBytes_calcLoop_append]
  exact List.eq_nil_of_length_eq_zero ((hsize _).trans h0)

/-- The entries `Proof.Calc` folds, in its order: the siblings on the path
that are not `nil`, from the leaves upward. -/
theorem leafProof_entries (leaves : List HashId) (D i : Nat) (root : HashId) :
    ((leafProof (treeLevels newHash D leaves) D i root).drop 1).reverse =
      ((List.range D).map fun d =>
        ((nextLevel newHash)^[d] leaves).getD (sibling (i >>> d)) none).filter (·.isSome) := by
  rw [leafProof, List.drop_one, List.tail_cons, List.map_reverse, List.filter_reverse,
    List.reverse_reverse]
  congr 1
  exact List.map_congr_left fun d hd => by rw [getD_treeLevels newHash D leaves (List.mem_range.mp hd).le]

/-- **The proof of a leaf checks**, over `2^D` leaves none of which is `nil`:
the siblings that are not `nil` are all of them when the digest is not
empty, and when it is, both the proof and the root hash to nothing. -/
theorem leafProof_check (hsize : newHash.SumsSize) {leaves : List HashId} {D : Nat}
    (hl : leaves.length = 2 ^ D) (hsome : ∀ x ∈ leaves, x.isSome) {i : Nat} (hi : i < 2 ^ D) :
    Proof.check newHash (leafProof (treeLevels newHash D leaves) D i
        (((nextLevel newHash)^[D] leaves).headD none)) (((nextLevel newHash)^[D] leaves).headD none)
      (leaves.getD i none) = true := by
  set full := (List.range D).map fun d =>
    ((nextLevel newHash)^[d] leaves).getD (sibling (i >>> d)) none
  have hpath := calcRoot_path newHash hl hi le_rfl
  rw [Nat.shiftRight_eq_div_pow, Nat.div_eq_of_lt hi,
    show ∀ l : List HashId, l.getD 0 none = l.headD none from fun l => by cases l <;> rfl] at hpath
  simp only [Proof.check, Proof.calcRoot, leafProof_entries, beq_iff_eq, ← hpath]
  rcases Nat.eq_zero_or_pos D with rfl | hD
  · rfl
  have hfirst : ((nextLevel newHash)^[0] leaves).getD (sibling (i >>> 0)) none ∈ full :=
    List.mem_map.mpr ⟨0, List.mem_range.mpr hD, rfl⟩
  rcases Nat.eq_zero_or_pos newHash.size with h0 | hpos
  · have hleaf := isSome_getD hsome (by rw [hl]; simpa using sibling_shiftRight_lt hi hD)
    rw [idBytes_calcLoop_of_size_zero newHash hsize h0 _ _
        (List.ne_nil_of_mem (List.mem_filter.mpr ⟨hfirst, hleaf⟩)),
      idBytes_calcLoop_of_size_zero newHash hsize h0 _ _ (List.ne_nil_of_mem hfirst)]
  · rw [List.filter_eq_self.mpr]
    intro x hx
    obtain ⟨d, hd, rfl⟩ := List.mem_map.mp hx
    have hd := List.mem_range.mp hd
    exact isSome_getD (iterate_nextLevel_isSome newHash hsize hpos hl hsome hd.le)
      (by rw [length_iterate_nextLevel newHash hl hd.le]; exact sibling_shiftRight_lt hi hd)

end Levels

/-! ## Every proof checks -/

/-- The depth loop reaches a power of two that holds all the leaves. -/
theorem le_two_pow_treeDepth (n : Nat) : n ≤ 2 ^ treeDepth n n 1 0 := by
  suffices h : ∀ fuel k, n ≤ 2 ^ (k + fuel) → n ≤ 2 ^ treeDepth n fuel (2 ^ k) k from
    h n 0 (by rw [Nat.zero_add]; exact (Nat.lt_two_pow n).le)
  intro fuel
  induction fuel with
  | zero => intro k h; simpa using h
  | succ fuel ih =>
    intro k h
    simp only [treeDepth]
    split
    · rw [Nat.shiftLeft_eq, Nat.pow_one, ← Nat.pow_succ]
      exact ih (k + 1) (by rwa [show k + 1 + fuel = k + (fuel + 1) by omega])
    · omega

/-- **Every proof `ProofTree` issues checks**, for a hash that keeps the
`hash.Hash` contract and leaves none of which is `nil`: one proof per leaf,
each of which checks against the root. -/
theorem proofTree_check (newHash : NewHash) (hsize : newHash.SumsSize) (leaves : List HashId)
    (hne : leaves ≠ []) (hnil : none ∉ leaves) :
    ∃ root proofs, proofTree newHash leaves = .ok (root, proofs) ∧ proofs.length = leaves.length ∧
      ∀ i < leaves.length, Proof.check newHash (proofs.getD i []) root (leaves.getD i none) = true := by
  have hD := le_two_pow_treeDepth leaves.length
  simp only [proofTree, if_neg hne, Nat.one_shiftLeft]
  set D := treeDepth leaves.length leaves.length 1 0
  set padded := leaves ++ List.replicate (2 ^ D - leaves.length) (some (List.replicate newHash.size 0))
  have hl : padded.length = 2 ^ D := by simp only [padded, List.length_append, List.length_replicate]; omega
  have hsome : ∀ x ∈ padded, x.isSome := by
    intro x hx
    rcases List.mem_append.mp hx with hx | hx
    · exact Option.isSome_iff_ne_none.mpr fun h => hnil (h ▸ hx)
    · rw [(List.mem_replicate.mp hx).2]; rfl
  rw [if_neg (by rw [headD_treeLevels, length_iterate_nextLevel newHash hl le_rfl]; simp)]
  refine ⟨_, _, rfl, by simp; omega, fun i hi => ?_⟩
  rw [List.getD_eq_getElem?_getD, List.getElem?_take, if_pos hi, List.getElem?_map,
    List.getElem?_range (by omega), Option.map_some', Option.getD_some, headD_treeLevels,
    show leaves.getD i none = padded.getD i none from (List.getD_append _ _ _ _ hi).symm]
  exact leafProof_check newHash hsize hl hsome (by omega)

/-- A one-byte hash, always 7; it keeps the `hash.Hash` contract. -/
def constantHash : NewHash := ⟨1, fun _ => [7]⟩

/-- Three leaves, padded to four. -/
theorem proofTree_check_three_leaves :
    constantHash.SumsSize ∧ ([some [1], some [2], some [3]] : List HashId) ≠ [] ∧
      none ∉ ([some [1], some [2], some [3]] : List HashId) ∧
      ∃ root proofs, proofTree constantHash [some [1], some [2], some [3]] = .ok (root, proofs) ∧
        proofs.length = 3 ∧ ∀ i < 3, Proof.check constantHash (proofs.getD i []) root
          ([some [1], some [2], some [3]].getD i none) = true :=
  have hs : constantHash.SumsSize := fun _ => rfl
  ⟨hs, by decide, by decide, proofTree_check constantHash hs _ (by decide) (by decide)⟩

/-! ## Where checking fails -/

/-- A `nil` leaf before `[1]`: the proof of `[1]` drops its `nil` sibling and
is the root alone, so its check compares `[1]` with the root. -/
theorem proofTree_nil_leaf_fails : constantHash.SumsSize ∧
    ∃ root proofs, proofTree constantHash [none, some [1]] = .ok (root, proofs) ∧
      proofs = [[root, some [1]], [root]] ∧
      Proof.check constantHash (proofs.getD 1 []) root (some [1]) = false :=
  ⟨fun _ => rfl, _, _, rfl, rfl, rfl⟩

/-- An injective hash: the bytes written, after a 0. -/
def taggedHash : NewHash := ⟨1, fun b => 0 :: b⟩

/-- Over the leaves `[1]` and `[2, 3]`, under an injective hash: the root
passes `Check` with an empty proof, and `[1, 2]` passes with the proof
`[root, [3]]`, as long as the honest ones, since `[1, 2] ++ [3]` is
`[1] ++ [2, 3]`. Neither is a leaf, and two leaves need no padding. -/
theorem check_accepts_non_leaves : Function.Injective taggedHash.digest ∧
    ∃ root proofs, proofTree taggedHash [some [1], some [2, 3]] = .ok (root, proofs) ∧
      proofs.map List.length = [2, 2] ∧
      (Proof.check taggedHash [] root root = true ∧ idBytes root ∉ [[1], [2, 3]]) ∧
      (Proof.check taggedHash [root, some [3]] root (some [1, 2]) = true ∧ [1, 2] ∉ [[1], [2, 3]]) :=
  ⟨fun _ _ h => (List.cons.inj h).2, _, _, rfl, rfl, ⟨rfl, by decide⟩, ⟨rfl, by decide⟩⟩

end Prifi
