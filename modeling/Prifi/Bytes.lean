import Mathlib.Data.List.Perm.Basic
import Mathlib.Data.List.OfFn
import Mathlib.Data.List.GetD
import Mathlib.Algebra.Group.Nat.Basic
import Mathlib.Algebra.Group.Int

/-!
# Byte strings and the DC-net XOR

Go's `[]byte` is modelled as `Bytes := List UInt8`; a `nil` slice, where
the code tells it apart from an empty one, is `none : Option Bytes`.

The DC-net combines cells with two loops of the same shape
(`dcnet.go`, `clientEncode`, `trusteeEncode`, `DecodeClient`):

    for k := range dst { dst[k] ^= src[k] }      -- encoder, iterates over dst
    for i := range src { dst[i] ^= src[i] }      -- decoder, iterates over src

Both are `xorInto dst src` under their own bounds check, which the callers
make (a failed check is a Go runtime panic). The results below are what the
round-trip proof needs:

- `getD_xorInto`: cell `k` of `xorInto d s` is `d[k] ^^^ s[k]`, reading a
  missing `s[k]` as `0`;
- `xorInto_right_comm`: absorbing two cells commutes, so the relay's
  accumulator does not depend on the order ciphers arrive in;
- `getD_foldl_xorInto`: a cell absorbed into a whole list of cells is the
  `xorSum` of the column;
- `xorSum_ofFn_comm`: the double XOR over all client/trustee pairs can be
  taken in either order — the heart of pad cancellation.

The rest is Go's runtime, as the models of the other files use it: the
`Except` postcondition `AllOk`, indexing and slicing with their panic
messages, and `encoding/binary`'s big-endian integers.
-/

namespace Prifi

/-- Go `[]byte`. -/
abbrev Bytes := List UInt8

/-! ## XOR on one byte -/

theorem byte_xor_assoc (a b c : UInt8) : a ^^^ b ^^^ c = a ^^^ (b ^^^ c) := by
  cases a; cases b; cases c; exact congrArg UInt8.mk (BitVec.xor_assoc _ _ _)

theorem byte_xor_comm (a b : UInt8) : a ^^^ b = b ^^^ a := by
  cases a; cases b; exact congrArg UInt8.mk (BitVec.xor_comm _ _)

@[simp] theorem byte_xor_self (a : UInt8) : a ^^^ a = 0 := by
  cases a; exact congrArg UInt8.mk BitVec.xor_self

@[simp] theorem byte_xor_zero (a : UInt8) : a ^^^ 0 = a := by
  cases a; exact congrArg UInt8.mk BitVec.xor_zero

@[simp] theorem byte_zero_xor (a : UInt8) : 0 ^^^ a = a := by
  rw [byte_xor_comm, byte_xor_zero]

theorem byte_xor_left_comm (a b c : UInt8) : a ^^^ (b ^^^ c) = b ^^^ (a ^^^ c) := by
  rw [← byte_xor_assoc, byte_xor_comm a b, byte_xor_assoc]

/-- XOR of a column of bytes. -/
def xorSum : List UInt8 → UInt8
  | [] => 0
  | a :: l => a ^^^ xorSum l

@[simp] theorem xorSum_nil : xorSum [] = 0 := rfl

@[simp] theorem xorSum_cons (a : UInt8) (l : List UInt8) :
    xorSum (a :: l) = a ^^^ xorSum l := rfl

theorem xorSum_append (l l' : List UInt8) : xorSum (l ++ l') = xorSum l ^^^ xorSum l' := by
  induction l with
  | nil => simp
  | cons a l ih => simp [ih, byte_xor_assoc]

/-- Pointwise XOR distributes over a column. -/
theorem xorSum_ofFn_xor {m : Nat} (a b : Fin m → UInt8) :
    xorSum (List.ofFn fun j => a j ^^^ b j) = xorSum (List.ofFn a) ^^^ xorSum (List.ofFn b) := by
  induction m with
  | zero => simp
  | succ m ih =>
    simp only [List.ofFn_succ, xorSum_cons, ih]
    rw [byte_xor_assoc, byte_xor_assoc, byte_xor_left_comm (b 0)]

@[simp] theorem xorSum_replicate_zero (m : Nat) : xorSum (List.replicate m 0) = 0 := by
  induction m with
  | zero => rfl
  | succ m ih => simp [List.replicate_succ, ih]

/-- **Double XOR swap**: summing an `n × m` table row by row or column by
column gives the same byte. -/
theorem xorSum_ofFn_comm {n m : Nat} (f : Fin n → Fin m → UInt8) :
    xorSum (List.ofFn fun i => xorSum (List.ofFn fun j => f i j)) =
      xorSum (List.ofFn fun j => xorSum (List.ofFn fun i => f i j)) := by
  induction n with
  | zero => simp
  | succ n ih =>
    simp only [List.ofFn_succ, xorSum_cons, xorSum_ofFn_xor]
    rw [ih fun i j => f i.succ j]

/-! ## XOR of a source cell into a destination cell -/

/-- `for k := range ... { dst[k] ^= src[k] }`, with the caller's bounds
check already passed: the first `min` bytes are XORed, `dst`'s length is
kept. -/
def xorInto : Bytes → Bytes → Bytes
  | d :: ds, s :: ss => (d ^^^ s) :: xorInto ds ss
  | ds, [] => ds
  | [], _ :: _ => []

@[simp] theorem length_xorInto (d s : Bytes) : (xorInto d s).length = d.length := by
  induction d, s using xorInto.induct <;> simp [xorInto, *]

theorem getD_xorInto (d s : Bytes) {k : Nat} (hk : k < d.length) :
    (xorInto d s).getD k 0 = d.getD k 0 ^^^ s.getD k 0 := by
  induction d, s using xorInto.induct generalizing k with
  | case1 d ds s ss ih => cases k <;> simp_all [xorInto]
  | case2 ds => simp [xorInto]
  | case3 s ss => simp at hk

/-- Absorbing two cells commutes. -/
theorem xorInto_right_comm (z x y : Bytes) :
    xorInto (xorInto z x) y = xorInto (xorInto z y) x := by
  refine List.ext_getElem (by simp) fun k h₁ h₂ => ?_
  have hz : k < z.length := by simpa using h₁
  have hzx : k < (xorInto z x).length := by simpa using hz
  have hzy : k < (xorInto z y).length := by simpa using hz
  rw [← List.getD_eq_getElem _ 0, ← List.getD_eq_getElem _ 0, getD_xorInto _ _ hzx,
    getD_xorInto _ _ hzy, getD_xorInto _ _ hz, getD_xorInto _ _ hz, byte_xor_assoc,
    byte_xor_assoc, byte_xor_comm (x.getD k 0)]

/-- Absorbing a list of cells one after the other: cell `k` is the start
value XOR the `k`-th column. -/
theorem getD_foldl_xorInto (cs : List Bytes) (d : Bytes) {k : Nat} (hk : k < d.length) :
    (cs.foldl xorInto d).getD k 0 = d.getD k 0 ^^^ xorSum (cs.map fun c => c.getD k 0) := by
  induction cs generalizing d with
  | nil => simp
  | cons c cs ih =>
    rw [List.foldl_cons, ih _ (by simpa using hk), getD_xorInto _ _ hk]
    simp [byte_xor_assoc]

@[simp] theorem length_foldl_xorInto (cs : List Bytes) (d : Bytes) :
    (cs.foldl xorInto d).length = d.length := by
  induction cs generalizing d <;> simp [*]

/-- Two cells of one length are equal when every byte is. -/
theorem ext_getD_zero {l₁ l₂ : Bytes} (hl : l₁.length = l₂.length)
    (h : ∀ k < l₁.length, l₁.getD k 0 = l₂.getD k 0) : l₁ = l₂ :=
  List.ext_getElem hl fun k h₁ h₂ => by
    have := h k h₁
    rwa [List.getD_eq_getElem _ 0 h₁, List.getD_eq_getElem _ 0 h₂] at this

/-- A column that is zero but at one row sums to that row. -/
theorem xorSum_ofFn_single {n : Nat} (f : Fin n → UInt8) (o : Fin n) (hf : ∀ i, i ≠ o → f i = 0) :
    xorSum (List.ofFn f) = f o := by
  induction n with
  | zero => exact o.elim0
  | succ n ih =>
    rw [List.ofFn_succ, xorSum_cons]
    cases o using Fin.cases with
    | zero =>
      have : (List.ofFn fun i : Fin n => f i.succ) = List.replicate n 0 := by
        rw [← List.ofFn_const]; congr; funext i; exact hf _ (Fin.succ_ne_zero i)
      simp [this]
    | succ o =>
      rw [hf 0 (Fin.succ_ne_zero o).symm, byte_zero_xor]
      exact ih (fun i => f i.succ) o fun i hi => hf _ (by simpa using hi)

/-- XORing a cell into zeros copies it (the keystream read of
`XORKeyStream(dst, dst)` on a fresh buffer). -/
@[simp] theorem xorInto_replicate_zero (s : Bytes) :
    xorInto (List.replicate s.length 0) s = s := by
  induction s with
  | nil => rfl
  | cons a s ih => simp [List.replicate_succ, xorInto, ih]

/-! ## Slices and Go's runtime panics

A Go runtime panic ends the process; the model returns it as
`Except.error` with the runtime's message. -/

/-- Peeling one step off a computation that may panic. -/
theorem except_bind_eq_ok {ε α β : Type} {x : Except ε α} {f : α → Except ε β} {b : β} :
    x >>= f = .ok b ↔ ∃ a, x = .ok a ∧ f a = .ok b := by
  cases x <;> simp [bind, Except.bind]

/-- Every value `x` returns, when it does not panic, satisfies `P`. -/
def AllOk {ε α : Type} (P : α → Prop) (x : Except ε α) : Prop := ∀ a, x = .ok a → P a

section AllOk

variable {ε α β : Type} {P : α → Prop}

@[simp] theorem allOk_ok {a : α} : AllOk P (.ok a : Except ε α) ↔ P a :=
  ⟨fun h => h a rfl, fun h _ e => Except.ok.inj e ▸ h⟩

@[simp] theorem allOk_pure {a : α} : AllOk P (pure a : Except ε α) ↔ P a := allOk_ok

@[simp] theorem allOk_throw {e : ε} : AllOk P (throw e : Except ε α) := fun _ h => nomatch h

@[simp] theorem allOk_bind {x : Except ε β} {f : β → Except ε α} :
    AllOk P (x >>= f) ↔ ∀ b, x = .ok b → AllOk P (f b) := by
  cases x <;> simp [AllOk, bind, Except.bind]

@[simp] theorem allOk_map {x : Except ε β} {f : β → α} :
    AllOk P (f <$> x) ↔ ∀ b, x = .ok b → P (f b) := by
  cases x <;> simp [AllOk, Functor.map, Except.map]

@[simp] theorem allOk_ite {c : Prop} [Decidable c] {x y : Except ε α} :
    AllOk P (if c then x else y) ↔ (c → AllOk P x) ∧ (¬c → AllOk P y) := by
  split <;> simp_all

end AllOk

/-- The message of an index panic, `a[i]` with `i ≥ len(a)`. -/
def indexOutOfRange (i len : Nat) : String :=
  "runtime error: index out of range [" ++ toString i ++ "] with length " ++ toString len

/-- `a[i]`: the element, or the index panic. -/
def sliceIndex {α : Type} (a : List α) (i : Nat) : Except String α :=
  match a[i]? with
  | some x => .ok x
  | none => .error (indexOutOfRange i a.length)

theorem sliceIndex_of_lt {α : Type} {a : List α} {i : Nat} (h : i < a.length) :
    sliceIndex a i = .ok a[i] := by
  simp [sliceIndex, List.getElem?_eq_getElem h]

@[simp] theorem sliceIndex_eq_ok {α : Type} {a : List α} {i : Nat} {x : α} :
    sliceIndex a i = .ok x ↔ a[i]? = some x := by
  unfold sliceIndex; split <;> rename_i h <;> simp [h]

theorem sliceIndex_of_le {α : Type} {a : List α} {i : Nat} (h : a.length ≤ i) :
    sliceIndex a i = .error (indexOutOfRange i a.length) := by
  simp [sliceIndex, List.getElem?_eq_none h]

/-- The message of a slice panic, `a[0:hi]` with `hi > cap(a)`. -/
def sliceBoundsOutOfRange (hi cap : Nat) : String :=
  "runtime error: slice bounds out of range [:" ++ toString hi ++ "] with capacity " ++ toString cap

/-- The message of a `nil` pointer dereference. -/
def nilPointerDereference : String :=
  "runtime error: invalid memory address or nil pointer dereference"

/-- `make([]T, n)`: `n` zero values, a panic for a negative `n`. -/
def makeSlice {α : Type} (n : Int) (zero : α) : Except String (List α) :=
  if n < 0 then .error "runtime error: makeslice: len out of range"
  else .ok (List.replicate n.toNat zero)

/-- `make([]byte, n)`. -/
def makeBytes (n : Int) : Except String Bytes := makeSlice n 0

/-- The message of an index panic for an index that may be negative. -/
def indexOutOfRangeInt (i : Int) (len : Nat) : String :=
  if i < 0 then "runtime error: index out of range [" ++ toString i ++ "]"
  else indexOutOfRange i.toNat len

/-- `a[i]` with an `int` index. -/
def sliceIndexInt {α : Type} (a : List α) (i : Int) : Except String α :=
  if 0 ≤ i then sliceIndex a i.toNat else .error (indexOutOfRangeInt i a.length)

/-- `a[i] = v`: the updated slice, or the index panic. -/
def sliceSet {α : Type} (a : List α) (i : Int) (v : α) : Except String (List α) :=
  if 0 ≤ i ∧ i < a.length then .ok (a.set i.toNat v) else .error (indexOutOfRangeInt i a.length)

/-- `copy(dst[0:len(src)], src)`, returning `dst`: the slice expression
panics when `src` is longer than `dst`. -/
def copyPrefix (dst src : Bytes) : Except String Bytes :=
  if dst.length < src.length then .error (sliceBoundsOutOfRange src.length dst.length)
  else .ok (src ++ dst.drop src.length)

theorem makeBytes_of_nonneg {n : Int} (h : 0 ≤ n) : makeBytes n = .ok (List.replicate n.toNat 0) := by
  simp [makeBytes, makeSlice, not_lt.mpr h]

theorem makeSlice_of_nonneg {α : Type} {n : Int} (zero : α) (h : 0 ≤ n) :
    makeSlice n zero = .ok (List.replicate n.toNat zero) := by
  simp [makeSlice, not_lt.mpr h]

theorem copyPrefix_of_le {dst src : Bytes} (h : src.length ≤ dst.length) :
    copyPrefix dst src = .ok (src ++ dst.drop src.length) := by
  simp [copyPrefix, not_lt.mpr h]

/-- `a[lo:hi]` on a slice whose capacity is its length, with Go's checks in
Go's order: `hi` against the capacity, then `lo` against `hi`; a negative
bound fails the unsigned comparison and gets the message without the other
bound. -/
def sliceRange {α : Type} (a : List α) (lo hi : Int) : Except String (List α) :=
  if hi < 0 then .error ("runtime error: slice bounds out of range [:" ++ toString hi ++ "]")
  else if a.length < hi then .error (sliceBoundsOutOfRange hi.toNat a.length)
  else if lo < 0 then .error ("runtime error: slice bounds out of range [" ++ toString lo ++ ":]")
  else if hi < lo then
    .error ("runtime error: slice bounds out of range [" ++ toString lo ++ ":" ++ toString hi ++ "]")
  else .ok ((a.drop lo.toNat).take (hi - lo).toNat)

theorem sliceRange_of_le {α : Type} {a : List α} {lo hi : Int} (h0 : 0 ≤ lo) (hlo : lo ≤ hi)
    (hhi : hi ≤ a.length) : sliceRange a lo hi = .ok ((a.drop lo.toNat).take (hi - lo).toNat) := by
  simp only [sliceRange]
  repeat rw [if_neg (by omega)]

/-- `a[lo:hi]` with bounds that are not negative and in order. -/
theorem sliceRange_ofNat {α : Type} {a : List α} {lo hi : Nat} (hlo : lo ≤ hi) (hhi : hi ≤ a.length) :
    sliceRange a lo hi = .ok ((a.drop lo).take (hi - lo)) := by
  rw [sliceRange_of_le (by omega) (by omega) (by omega)]
  simp only [Int.toNat_ofNat, ← Int.ofNat_sub hlo]

/-- The slice of `w` in `pre ++ w ++ suf`. -/
theorem sliceRange_mid {α : Type} (pre w suf : List α) :
    sliceRange (pre ++ w ++ suf) (pre.length : Nat) (pre.length + w.length : Nat) = .ok w := by
  rw [sliceRange_ofNat (by omega) (by simp), List.append_assoc, List.drop_left,
    Nat.add_sub_cancel_left, List.take_left]

theorem sliceSet_of_lt {α : Type} {a : List α} {i : Nat} (v : α) (h : i < a.length) :
    sliceSet a i v = .ok (a.set i v) := by
  rw [sliceSet, if_pos ⟨Int.ofNat_nonneg i, Int.ofNat_lt.mpr h⟩]; rfl

theorem sliceSet_of_le {α : Type} {a : List α} {i : Nat} (v : α) (h : a.length ≤ i) :
    sliceSet a i v = .error (indexOutOfRange i a.length) := by
  rw [sliceSet, if_neg (by omega)]; rfl

/-! ## Big-endian integers -/

/-- `binary.BigEndian.Uint16/Uint32` on a slice of bytes. -/
def bigEndian (b : Bytes) : Nat :=
  b.foldl (fun acc x => acc * 256 + x.toNat) 0

/-- `binary.BigEndian.PutUint32(b, uint32(n))`: the four bytes of
`n mod 2^32`. -/
def putUint32 (n : Nat) : Bytes :=
  [(n >>> 24).toUInt8, (n >>> 16).toUInt8, (n >>> 8).toUInt8, n.toUInt8]

@[simp] theorem toNat_toUInt8 (n : Nat) : n.toUInt8.toNat = n % 256 := by
  simp [Nat.toUInt8, UInt8.ofNat, UInt8.toNat]

@[simp] theorem length_putUint32 (n : Nat) : (putUint32 n).length = 4 := rfl

/-- Reading back a written `uint32` gives the number modulo `2^32`. -/
theorem bigEndian_putUint32 (n : Nat) : bigEndian (putUint32 n) = n % 2 ^ 32 := by
  simp only [bigEndian, putUint32, List.foldl, Nat.shiftRight_eq_div_pow, toNat_toUInt8]
  omega

theorem foldl_bigEndian_lt (b : Bytes) (a : Nat) :
    b.foldl (fun acc x => acc * 256 + x.toNat) a < (a + 1) * 256 ^ b.length := by
  induction b generalizing a with
  | nil => simp
  | cons x b ih =>
    have hx := x.val.isLt
    calc b.foldl (fun acc x => acc * 256 + x.toNat) (a * 256 + x.toNat)
        < (a * 256 + x.toNat + 1) * 256 ^ b.length := ih _
      _ ≤ (a + 1) * 256 * 256 ^ b.length := Nat.mul_le_mul_right _ (by simp only [UInt8.toNat] at *; omega)
      _ = (a + 1) * 256 ^ (x :: b).length := by rw [List.length_cons, Nat.pow_succ', Nat.mul_assoc]

/-- A number read from `k` bytes is below `256^k`. -/
theorem bigEndian_lt (b : Bytes) : bigEndian b < 256 ^ b.length := by
  simpa using foldl_bigEndian_lt b 0

/-- `binary.BigEndian.PutUint16(b, uint16(n))`: the two bytes of
`n mod 2^16`. -/
def putUint16 (n : Nat) : Bytes :=
  [(n >>> 8).toUInt8, n.toUInt8]

@[simp] theorem length_putUint16 (n : Nat) : (putUint16 n).length = 2 := rfl

theorem bigEndian_putUint16 (n : Nat) : bigEndian (putUint16 n) = n % 2 ^ 16 := by
  simp only [bigEndian, putUint16, List.foldl, Nat.shiftRight_eq_div_pow, toNat_toUInt8]
  omega

/-- The byte a number below 256 is. -/
theorem toUInt8_eq {n : Nat} {a : UInt8} (h : n % 256 = a.toNat) : n.toUInt8 = a :=
  UInt8.toNat.inj (by rw [toNat_toUInt8, h])

/-- Writing back four bytes read as a `uint32` gives them again. -/
theorem putUint32_bigEndian {b : Bytes} (h : b.length = 4) : putUint32 (bigEndian b) = b := by
  match b, h with
  | [a₀, a₁, a₂, a₃], _ =>
    have := a₀.val.isLt; have := a₁.val.isLt; have := a₂.val.isLt; have := a₃.val.isLt
    simp only [putUint32, bigEndian, List.foldl, Nat.shiftRight_eq_div_pow, List.cons.injEq]
    refine ⟨toUInt8_eq ?_, toUInt8_eq ?_, toUInt8_eq ?_, toUInt8_eq ?_, trivial⟩ <;>
      simp only [UInt8.toNat] <;> omega

/-- Writing back two bytes read as a `uint16` gives them again. -/
theorem putUint16_bigEndian {b : Bytes} (h : b.length = 2) : putUint16 (bigEndian b) = b := by
  match b, h with
  | [a₀, a₁], _ =>
    have := a₀.val.isLt; have := a₁.val.isLt
    simp only [putUint16, bigEndian, List.foldl, Nat.shiftRight_eq_div_pow, List.cons.injEq]
    refine ⟨toUInt8_eq ?_, toUInt8_eq ?_, trivial⟩ <;> simp only [UInt8.toNat] <;> omega

end Prifi
