import Prifi.Bytes

/-!
# The public-key array codec (`util`)

`MarshalPublicKeyArrayToByteArray` writes the message type 2 as a big-endian
`uint32`, then each key as its length (a `uint32`) and its bytes.
`UnMarshalPublicKeyArrayFromByteArray` checks the type, then reads
length-prefixed keys until fewer than four bytes are left or a length is 0.
The receiver reads into a fixed buffer of 1024 bytes, so the array arrives
with zeros after it.

Points are abstract: `MarshalBinary` and `UnmarshalBinary` (on a fresh
`cryptoSuite.Point()`) are parameters, each returning its `error` as
`Except.error`.

- `marshalKeys_eq`: with every key marshalled, the encoder writes the
  length-prefixed keys (`encodeKeys`) after what it has;
- `unmarshalKeys_encodeKeys`: the decoder's loop reads back every key of
  such a layout, whatever zeros follow, stopping at their end by either exit;
- **`unMarshal_marshal_roundTrip`**: the codec round-trips for keys whose
  encodings are nonempty and shorter than `2^32` bytes.
-/

namespace Prifi

variable {Point : Type}

/-! ## The codec -/

/-- The loop of `MarshalPublicKeyArrayToByteArray` from key `i`: the key's
length as a `uint32`, then its bytes. A key that fails to marshal panics
(after its bytes were appended, which the panic discards). -/
def marshalKeys (marshalBinary : Point → Except String Bytes) (i : Nat) :
    List Point → Bytes → Except String Bytes
  | [], byteArray => .ok byteArray
  | pk :: pks, byteArray =>
    match marshalBinary pk with
    | .error _ => .error ("can't marshal client public key n°" ++ toString i)
    | .ok publicKeysBytes =>
      marshalKeys marshalBinary (i + 1) pks
        (byteArray ++ putUint32 publicKeysBytes.length ++ publicKeysBytes)

/-- `MarshalPublicKeyArrayToByteArray` (`part_004:45`). -/
def marshalPublicKeyArrayToByteArray (marshalBinary : Point → Except String Bytes)
    (publicKeys : List Point) : Except String Bytes :=
  marshalKeys marshalBinary 0 publicKeys (putUint32 2)

/-- The loop of `UnMarshalPublicKeyArrayFromByteArray` from byte
`currentByte`: stop when fewer than four bytes are left or the length read is
0; otherwise slice the key (the buffer's capacity is its length), unmarshal
it, and go on after it. `fuel` bounds the iterations. -/
def unmarshalKeys (unmarshalBinary : Bytes → Except String Point) (buffer : Bytes) :
    (fuel currentByte currentPkId : Nat) → List Point → Except String (List Point)
  | 0, _, _, publicKeys => .ok publicKeys
  | fuel + 1, currentByte, currentPkId, publicKeys =>
    if buffer.length < currentByte + 4 then .ok publicKeys
    else
      let keyLength := bigEndian ((buffer.drop currentByte).take 4)
      if keyLength = 0 then .ok publicKeys
      else do
        let keyBytes ← sliceRange buffer ((currentByte + 4 : Nat) : Int)
          ((currentByte + 4 + keyLength : Nat) : Int)
        match unmarshalBinary keyBytes with
        | .error err2 =>
          .error (">>>>can't unmarshal key n°" ++ toString currentPkId ++ " ! " ++ err2)
        | .ok publicKey =>
          unmarshalKeys unmarshalBinary buffer fuel (currentByte + 4 + keyLength) (currentPkId + 1)
            (publicKeys ++ [publicKey])

/-- `UnMarshalPublicKeyArrayFromByteArray` (`part_004:88`); the suite only
makes the fresh points, so it is part of `unmarshalBinary`. -/
def unMarshalPublicKeyArrayFromByteArray (unmarshalBinary : Bytes → Except String Point)
    (buffer : Bytes) : Except String (List Point) := do
  let messageType := bigEndian (← sliceRange buffer 0 4)
  if messageType ≠ 2 then throw "Trying to unmarshall an array, but does not start by 2"
  unmarshalKeys unmarshalBinary buffer buffer.length 4 0 []

/-! ## The layout -/

/-- Keys' bytes, each after its length as a `uint32`. -/
def encodeKeys (keys : List Bytes) : Bytes := keys.flatMap fun b => putUint32 b.length ++ b

@[simp] theorem encodeKeys_nil : encodeKeys [] = [] := rfl

@[simp] theorem encodeKeys_cons (b : Bytes) (keys : List Bytes) :
    encodeKeys (b :: keys) = putUint32 b.length ++ b ++ encodeKeys keys := by
  simp [encodeKeys]

theorem encodeKeys_append (keys keys' : List Bytes) :
    encodeKeys (keys ++ keys') = encodeKeys keys ++ encodeKeys keys' := List.flatMap_append ..

theorem length_encodeKeys_ge (keys : List Bytes) : 4 * keys.length ≤ (encodeKeys keys).length := by
  induction keys with
  | nil => simp
  | cons b keys ih => simp only [encodeKeys_cons, List.length_append, length_putUint32,
      List.length_cons]; omega

/-- The encoder writes the length-prefixed keys after what it has. -/
theorem marshalKeys_eq {marshalBinary : Point → Except String Bytes} {pks : List Point}
    {keys : List Bytes} (h : List.Forall₂ (fun pk b => marshalBinary pk = .ok b) pks keys)
    (i : Nat) (byteArray : Bytes) :
    marshalKeys marshalBinary i pks byteArray = .ok (byteArray ++ encodeKeys keys) := by
  induction h generalizing i byteArray with
  | nil => simp [marshalKeys]
  | cons hb _ ih => simp [marshalKeys, hb, ih]

/-- **The decoder's loop reads the layout back**: after any prefix, the
length-prefixed keys followed by any number of zeros decode to the keys'
points, given one iteration per key and one to stop. -/
theorem unmarshalKeys_encodeKeys {unmarshalBinary : Bytes → Except String Point}
    {pks : List Point} {keys : List Bytes}
    (h : List.Forall₂ (fun pk b => 0 < b.length ∧ b.length < 2 ^ 32 ∧ unmarshalBinary b = .ok pk)
      pks keys)
    (pre : Bytes) (z : Nat) {fuel : Nat} (hf : keys.length < fuel) (id : Nat) (acc : List Point) :
    unmarshalKeys unmarshalBinary (pre ++ encodeKeys keys ++ List.replicate z 0) fuel pre.length id
      acc = .ok (acc ++ pks) := by
  induction h generalizing pre fuel id acc with
  | nil =>
    obtain ⟨fuel, rfl⟩ : ∃ f, fuel = f + 1 := ⟨fuel - 1, by simp at hf; omega⟩
    simp only [unmarshalKeys, encodeKeys_nil, List.append_nil, List.length_append,
      List.length_replicate, List.drop_left, List.take_replicate]
    split
    · simp
    · rw [if_pos (by rw [show min 4 z = 4 by omega]; rfl)]
  | @cons pk b pks keys hb _ ih =>
    obtain ⟨fuel, rfl⟩ : ∃ f, fuel = f + 1 := ⟨fuel - 1, by simp at hf; omega⟩
    obtain ⟨hpos, hlt, hu⟩ := hb
    have hbuf : pre ++ encodeKeys (b :: keys) ++ List.replicate z 0 =
        (pre ++ putUint32 b.length ++ b) ++ encodeKeys keys ++ List.replicate z 0 := by simp
    have hkey : bigEndian (((pre ++ encodeKeys (b :: keys) ++ List.replicate z 0).drop pre.length).take 4) =
        b.length := by
      rw [hbuf]; simp only [List.append_assoc, List.drop_left]
      rw [List.take_left' (length_putUint32 _), bigEndian_putUint32, Nat.mod_eq_of_lt hlt]
    have hslice : sliceRange (pre ++ encodeKeys (b :: keys) ++ List.replicate z 0)
        ((pre.length + 4 : Nat) : Int) ((pre.length + 4 + b.length : Nat) : Int) = .ok b := by
      rw [sliceRange_ofNat (by omega) (by simp; omega), hbuf, List.append_assoc,
        List.append_assoc, List.drop_left' (by simp), Nat.add_sub_cancel_left, List.take_left]
    simp only [unmarshalKeys, hkey]
    rw [if_neg (by simp only [List.length_append, encodeKeys_cons, length_putUint32]; omega),
      if_neg (by omega)]
    simp only [hslice, bind, Except.bind, hu]
    rw [hbuf, show pre.length + 4 + b.length = (pre ++ putUint32 b.length ++ b).length by simp; omega,
      ih _ (by simpa using hf), List.append_assoc, List.singleton_append]

/-! ## The round trip -/

/-- **The codec round-trips**: for keys whose encodings are nonempty, shorter
than `2^32` bytes and unmarshalled back to the key, decoding the encoding with
any number of zeros after it gives the keys, in order. -/
theorem unMarshal_marshal_roundTrip (marshalBinary : Point → Except String Bytes)
    (unmarshalBinary : Bytes → Except String Point) (pks : List Point) (z : Nat)
    (hpks : ∀ pk ∈ pks, ∃ b, marshalBinary pk = .ok b ∧ 0 < b.length ∧ b.length < 2 ^ 32 ∧
      unmarshalBinary b = .ok pk) :
    ∃ byteArray, marshalPublicKeyArrayToByteArray marshalBinary pks = .ok byteArray ∧
      unMarshalPublicKeyArrayFromByteArray unmarshalBinary (byteArray ++ List.replicate z 0) =
        .ok pks := by
  obtain ⟨keys, hkeys⟩ : ∃ keys, List.Forall₂ (fun pk b => marshalBinary pk = .ok b ∧
      0 < b.length ∧ b.length < 2 ^ 32 ∧ unmarshalBinary b = .ok pk) pks keys := by
    induction pks with
    | nil => exact ⟨[], .nil⟩
    | cons pk pks ih =>
      obtain ⟨b, hb⟩ := hpks pk (List.mem_cons_self _ _)
      obtain ⟨keys, hk⟩ := ih fun q hq => hpks q (List.mem_cons_of_mem _ hq)
      exact ⟨b :: keys, .cons hb hk⟩
  refine ⟨_, marshalKeys_eq (hkeys.imp fun _ _ h => h.1) 0 _, ?_⟩
  have hlen := length_encodeKeys_ge keys
  have hhead : sliceRange (putUint32 2 ++ encodeKeys keys ++ List.replicate z 0) 0 4 =
      .ok (putUint32 2) := by
    rw [sliceRange_of_le le_rfl (by omega) (by simp; omega)]
    simp [List.append_assoc, List.take_append_of_le_length]
  simp only [unMarshalPublicKeyArrayFromByteArray, hhead, bind, Except.bind]
  rw [if_neg (by decide)]
  have := unmarshalKeys_encodeKeys (hkeys.imp fun _ _ h => h.2) (putUint32 2) z
    (show keys.length < (putUint32 2 ++ encodeKeys keys ++ List.replicate z 0).length by simp; omega) 0 []
  simpa using this

/-- Points that are single bytes, marshalled as themselves. -/
def byteMarshal (p : UInt8) : Except String Bytes := .ok [p]

/-- The inverse of `byteMarshal`. -/
def byteUnmarshal : Bytes → Except String UInt8
  | [p] => .ok p
  | _ => .error "not one byte"

/-- Two one-byte keys, read back from the relay's 1024-byte buffer. -/
theorem unMarshal_marshal_roundTrip_two_bytes :
    (∀ pk ∈ ([1, 2] : List UInt8), ∃ b, byteMarshal pk = .ok b ∧ 0 < b.length ∧ b.length < 2 ^ 32 ∧
      byteUnmarshal b = .ok pk) ∧
    ∃ byteArray, marshalPublicKeyArrayToByteArray byteMarshal [1, 2] = .ok byteArray ∧
      unMarshalPublicKeyArrayFromByteArray byteUnmarshal (byteArray ++ List.replicate 1010 0) =
        .ok [1, 2] :=
  have h : ∀ pk ∈ ([1, 2] : List UInt8), ∃ b, byteMarshal pk = .ok b ∧ 0 < b.length ∧
      b.length < 2 ^ 32 ∧ byteUnmarshal b = .ok pk := fun pk _ => ⟨[pk], rfl, Nat.one_pos, show 1 < 2 ^ 32 by decide, rfl⟩
  ⟨h, unMarshal_marshal_roundTrip byteMarshal byteUnmarshal [1, 2] 1010 h⟩

end Prifi
