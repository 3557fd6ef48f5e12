import Prifi.Bytes

/-!
# Following a Merkle path (`timestamp/proof.go`)

`MerkleGet` follows a path of hash pointers from a root blob: at each level
it slices a 256-byte id at the offset `Ptr[i]` out of the current blob and
fetches the blob with that id; at the end it slices the object
`[Ofs:Ofs+Len]` out of the last blob. The path is untrusted, but the only
check before each slice is that its end is within the blob: a negative
offset, or a negative length, passes it, and the slice expression then
panics.

- `merkleGet_negative_bounds_panic`: **the path can crash the caller**: a
  negative `Len` or `Ofs` panics whatever the root and the store, and so does
  a negative pointer in a blob of at least 255 bytes;
- `merkleGet_safe`: with offsets and lengths that are not negative and do
  not overflow, `MerkleGet` does not panic, and what it returns is
  `blob[Ofs:Ofs+Len]` of the last blob, within its bounds.
-/

namespace Prifi

/-- Go's `int` addition wraps at 64 bits. -/
def toInt64 (x : Int) : Int := (x + 2 ^ 63) % 2 ^ 64 - 2 ^ 63

theorem toInt64_of_lt {x : Int} (h0 : -2 ^ 63 ≤ x) (h1 : x < 2 ^ 63) : toInt64 x = x := by
  unfold toInt64; omega

/-- `MerklePath` (`proof.go:165`). -/
structure MerklePath where
  ptr : List Int
  ofs : Int
  len : Int

/-- `HashGet`, the store (not in `src/`; modelled from its use in
`MerkleGet`): `Get(id)` returns the blob with that id, or an error. -/
abbrev HashGet := Bytes → Except String Bytes

/-- The loop of `MerkleGet` over `path.Ptr`: the blob the pointers lead to,
or the error that stops it. A slice `blob[beg:end]` reached has
`end <= len(blob) <= cap(blob)`, so the capacity is never what fails. -/
def followPtrs (ctx : HashGet) : Bytes → List Int → Except String (Except String Bytes)
  | blob, [] => .ok (.ok blob)
  | blob, beg :: ptrs => do
    let end_ := toInt64 (beg + 256)
    if end_ > blob.length then return .error "bad Merkle tree pointer offset"
    let id ← sliceRange blob beg end_
    match ctx id with
    | .error e => return .error e
    | .ok b => followPtrs ctx b ptrs

/-- `MerkleGet(suite, root, path, ctx)` (`proof.go:175`): the returned
`error` inside, a panic outside. The suite is not used. -/
def merkleGet (root : Bytes) (path : MerklePath) (ctx : HashGet) :
    Except String (Except String Bytes) := do
  match ← followPtrs ctx root path.ptr with
  | .error e => return .error e
  | .ok blob =>
    let beg := path.ofs
    let end_ := toInt64 (beg + path.len)
    if end_ > blob.length then return .error "bad Merkle tree object offset/length"
    return .ok (← sliceRange blob beg end_)

/-! ## Panics -/

/-- `Ofs = 1, Len = -1` and `Ofs = -1, Len = 1` both end at 0, within any
blob, and slice `blob[1:0]` and `blob[-1:0]`; a pointer of -1 slices
`blob[-1:255]` out of any blob of at least 255 bytes. -/
theorem merkleGet_negative_bounds_panic (root : Bytes) (ctx : HashGet) :
    merkleGet root ⟨[], 1, -1⟩ ctx = .error "runtime error: slice bounds out of range [1:0]" ∧
    merkleGet root ⟨[], -1, 1⟩ ctx = .error "runtime error: slice bounds out of range [-1:]" ∧
    merkleGet root ⟨[-1], 0, 0⟩ ctx =
      if 255 ≤ root.length then .error "runtime error: slice bounds out of range [-1:]"
      else .ok (.error "bad Merkle tree pointer offset") := by
  refine ⟨rfl, rfl, ?_⟩
  have he : toInt64 (-1 + 256) = 255 := rfl
  by_cases h : (root.length : Int) < 255
  · simp only [merkleGet, followPtrs, he, gt_iff_lt, h, ↓reduceIte, show ¬255 ≤ root.length by omega]
    rfl
  · simp only [merkleGet, followPtrs, he, gt_iff_lt, h, ↓reduceIte, sliceRange,
      show 255 ≤ root.length by omega]
    rfl

/-! ## Paths that do not panic -/

/-- A pointer that is not negative and does not overflow: the loop returns. -/
theorem followPtrs_ok (ctx : HashGet) (blob : Bytes) {ptrs : List Int}
    (hptr : ∀ p ∈ ptrs, 0 ≤ p ∧ p + 256 < 2 ^ 63) : ∃ r, followPtrs ctx blob ptrs = .ok r := by
  induction ptrs generalizing blob with
  | nil => exact ⟨_, rfl⟩
  | cons beg ptrs ih =>
    obtain ⟨h0, h1⟩ := hptr beg (List.mem_cons_self _ _)
    have ih' := fun b => ih b fun p hp => hptr p (List.mem_cons_of_mem _ hp)
    simp only [followPtrs, toInt64_of_lt (by omega) h1, bind, Except.bind, pure, Except.pure]
    split
    · exact ⟨_, rfl⟩
    · simp only [@sliceRange_of_le _ blob beg (beg + 256) h0 (by omega) (by omega)]
      split
      · exact ⟨_, rfl⟩
      · exact ih' _

/-- **`MerkleGet` on a path of offsets and lengths that are not negative and
do not overflow** does not panic, and returns either an error or
`blob[Ofs:Ofs+Len]` of the blob the pointers lead to, within its bounds. -/
theorem merkleGet_safe (root : Bytes) (path : MerklePath) (ctx : HashGet)
    (hptr : ∀ p ∈ path.ptr, 0 ≤ p ∧ p + 256 < 2 ^ 63) (hofs : 0 ≤ path.ofs) (hlen : 0 ≤ path.len)
    (hend : path.ofs + path.len < 2 ^ 63) :
    ∃ r, merkleGet root path ctx = .ok r ∧ ∀ b, r = .ok b →
      ∃ blob, followPtrs ctx root path.ptr = .ok (.ok blob) ∧ path.ofs + path.len ≤ blob.length ∧
        b = (blob.drop path.ofs.toNat).take path.len.toNat := by
  obtain ⟨r, hr⟩ := followPtrs_ok ctx root hptr
  simp only [merkleGet, hr, bind, Except.bind, toInt64_of_lt (by omega) hend]
  rcases r with e | blob
  · exact ⟨_, rfl, fun _ h => nomatch h⟩
  · simp only [pure, Except.pure]
    split
    · exact ⟨_, rfl, fun _ h => nomatch h⟩
    · rename_i hle
      rw [sliceRange_of_le hofs (by omega) (by omega)]
      refine ⟨_, rfl, fun b hb => ⟨blob, rfl, by omega, ?_⟩⟩
      cases hb
      congr 2; omega

/-- A path of one pointer at 0 into a 256-byte root, and the object
`[1:3]`, in a store that maps every id to `[5, 6, 7, 8]`. -/
theorem merkleGet_safe_one_level :
    (∀ p ∈ [(0 : Int)], 0 ≤ p ∧ p + 256 < 2 ^ 63) ∧ (0 : Int) ≤ 1 ∧ (0 : Int) ≤ 2 ∧
      (1 : Int) + 2 < 2 ^ 63 ∧
      ∃ r, merkleGet (List.replicate 256 0) ⟨[0], 1, 2⟩ (fun _ => .ok [5, 6, 7, 8]) = .ok r ∧
        ∀ b, r = .ok b → ∃ blob, followPtrs (fun _ => .ok [5, 6, 7, 8]) (List.replicate 256 0) [0] =
          .ok (.ok blob) ∧ (1 : Int) + 2 ≤ blob.length ∧ b = (blob.drop (1 : Int).toNat).take (2 : Int).toNat :=
  have hptr : ∀ p ∈ [(0 : Int)], 0 ≤ p ∧ p + 256 < 2 ^ 63 := by decide
  ⟨hptr, by decide, by decide, by decide,
    merkleGet_safe (List.replicate 256 0) ⟨[0], 1, 2⟩ (fun _ => .ok [5, 6, 7, 8]) hptr
      (by decide) (by decide) (by decide)⟩

end Prifi
