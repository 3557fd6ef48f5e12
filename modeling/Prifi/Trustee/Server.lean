import Prifi.Util.PublicKeyArray

/-!
# The trustee server's handshake (`dissent/trusteeServer.go`)

`handleConnection` serves one connection of the dissent trustee server. It
reads a setup message into a 1024-byte buffer: the protocol version, the cell
size, the numbers of clients and trustees and the trustee's id, each a
big-endian `uint32` (the layout `startClient` writes, `setupMessage`). On a
version mismatch it closes the connection and sends its id on
`closedConnections`, which no goroutine receives from, so it blocks there.
Otherwise it picks its key pair from its name, writes the version, its key's
length and its key, and reads the clients' keys into a second 1024-byte
buffer: each key after its length as a `uint32`, up to a length of 0. Each key
goes into the next of `nClients` slots, with its shared secret; then every
slot must be filled. The handler ends in a sleep loop.

The key loop reads the layout of `encodeKeys` (`Util.PublicKeyArray`), but
without `UnMarshalPublicKeyArrayFromByteArray`'s check that four bytes are
left, and into slots of a fixed number:

- `trusteeKeyLoop_encodeKeys`: a run of keys fills the next slots, in order
  (from the one-key step `trusteeKeyLoop_key`);
- **`handleConnection_established`**: for exactly `nClients` keys with four
  bytes left after them, the handshake holds every key and shared secret, in
  order, and has written the version, the key's length and the key;
- **`handleConnection_keyCount_ne`**: any other number of keys panics, naming
  the first client without a key, or the slot past the last;
- **`handleConnection_noRoomForEnd`**: the right number of keys with fewer than
  four bytes after them panics on slicing the next length, where the util
  decoder's loop returns the keys (`trusteeKeyLoop_needs_end`).
-/

namespace Prifi

variable {Point Scalar : Type}

/-! ## The model -/

/-- What the handshake takes from the package outside `src/`: the suite's
operations and `LLD_PROTOCOL_VERSION`. -/
structure TrusteeEnv (Point Scalar : Type) where
  /-- `LLD_PROTOCOL_VERSION`. -/
  lldProtocolVersion : Nat
  /-- `suite.Secret().Pick(suite.Cipher([]byte(name)))`. -/
  pick : String → Scalar
  /-- `suite.Point().Base()`. -/
  base : Point
  /-- `suite.Point().Mul(p, s)`. -/
  mul : Point → Scalar → Point
  /-- The bytes of `MarshalBinary`, whose error the handler drops. -/
  marshalBinary : Point → Bytes
  /-- `UnmarshalBinary` on a fresh `suite.Point()`. -/
  unmarshalBinary : Bytes → Except String Point

/-- `TrusteeCryptoParams` without `CellCoder` and `MessageHistory`, which the
handshake does not use; a `nil` point is `none`. -/
structure TrusteeCryptoParams (Point Scalar : Type) where
  name : String
  publicKey : Point
  privateKey : Scalar
  clientPublicKeys : List (Option Point)
  sharedSecrets : List (Option Point)

/-- `initateTrusteeCrypto(trusteeId, nClients)`: the key pair picked from the
trustee's name, and `nClients` empty slots for the clients' keys and for the
shared secrets. -/
def initateTrusteeCrypto (env : TrusteeEnv Point Scalar) (trusteeId nClients : Nat) :
    TrusteeCryptoParams Point Scalar :=
  let name := "trustee-" ++ toString trusteeId
  let privateKey := env.pick name
  { name := name
    publicKey := env.mul env.base privateKey
    privateKey := privateKey
    clientPublicKeys := List.replicate nClients none
    sharedSecrets := List.replicate nClients none }

/-- A fresh `make([]byte, n)` after `conn.Read` delivered `data` into it: at
most `n` bytes of it, then zeros. -/
def readInto (n : Nat) (data : Bytes) : Bytes :=
  data.take n ++ List.replicate (n - data.length) 0

/-- `int(binary.BigEndian.Uint32(buffer[4k:4k+4]))`, the `k`-th field of the
setup message. -/
def setupField (buffer : Bytes) (k : Nat) : Nat :=
  bigEndian ((buffer.drop (4 * k)).take 4)

/-- The 20-byte setup message as `startClient` writes it (`proof.go:279`):
the version, the payload length (the cell size), the numbers of clients and
trustees and the id, each a big-endian `uint32`. -/
def setupMessage (version payloadLength nClients nTrustees clientId : Nat) : Bytes :=
  putUint32 version ++ putUint32 payloadLength ++ putUint32 nClients ++ putUint32 nTrustees ++
    putUint32 clientId

/-- The loop of `handleConnection` over the clients' keys, from byte
`currentByte` and slot `currentClientId`: the key's length, sliced with no
check that four bytes are left; a length of 0 ends it; otherwise the key is
sliced and unmarshalled, and it and its shared secret go into the slot.
`fuel` bounds the iterations. -/
def trusteeKeyLoop (env : TrusteeEnv Point Scalar) (privateKey : Scalar) (buffer3 : Bytes) :
    (fuel currentByte currentClientId : Nat) → List (Option Point) → List (Option Point) →
      Except String (List (Option Point) × List (Option Point))
  | 0, _, _, clientPublicKeys, sharedSecrets => .ok (clientPublicKeys, sharedSecrets)
  | fuel + 1, currentByte, currentClientId, clientPublicKeys, sharedSecrets => do
    let keyLength := bigEndian (← sliceRange buffer3 currentByte (currentByte + 4 : Nat))
    if keyLength = 0 then return (clientPublicKeys, sharedSecrets)
    let keyBytes ← sliceRange buffer3 (currentByte + 4 : Nat) (currentByte + 4 + keyLength : Nat)
    match env.unmarshalBinary keyBytes with
    | .error err3 =>
      throw (">>>>  Trustee : can't unmarshal client key n°" ++ toString currentClientId ++ " ! " ++
        err3)
    | .ok clientPublicKey =>
      let clientPublicKeys ← sliceSet clientPublicKeys currentClientId (some clientPublicKey)
      let sharedSecrets ← sliceSet sharedSecrets currentClientId
        (some (env.mul clientPublicKey privateKey))
      trusteeKeyLoop env privateKey buffer3 fuel (currentByte + 4 + keyLength)
        (currentClientId + 1) clientPublicKeys sharedSecrets

/-- The check after the loop, `for i := 0; i < nClients; i++`, from `i` with
`n` iterations left: an empty slot panics with its index. -/
def checkClientKeys (clientPublicKeys : List (Option Point)) (i : Nat) : Nat → Except String Unit
  | 0 => .ok ()
  | n + 1 => do
    if (← sliceIndex clientPublicKeys i).isNone then
      throw ("Trustee : didn't get the public key from client " ++ toString i)
    checkClientKeys clientPublicKeys (i + 1) n

/-- How `handleConnection` stops short of a panic: it never returns. -/
inductive HandshakeEnd (Point Scalar : Type)
  /-- A version mismatch: the handler sends its id on `closedConnections`,
  which no goroutine receives from, and blocks there. -/
  | blockedOnClosed
  /-- The keys are exchanged: the handler has written `written` and sleeps
  forever with `params`. -/
  | established (written : Bytes) (params : TrusteeCryptoParams Point Scalar)

/-- `handleConnection` (`trusteeServer.go:119`): `read` is what the first
`conn.Read` delivered (its error is only printed), `read3` what the second
delivered, or its error. The write of the key is assumed to succeed; the cell
size and the number of trustees are only printed before the sleep loop. -/
def handleConnection (env : TrusteeEnv Point Scalar) (read : Bytes) (read3 : Except String Bytes) :
    Except String (HandshakeEnd Point Scalar) := do
  let buffer := readInto 1024 read
  if setupField buffer 0 ≠ env.lldProtocolVersion then return .blockedOnClosed
  let nClients := setupField buffer 2
  let trusteeId := setupField buffer 4
  let cryptoParams := initateTrusteeCrypto env trusteeId nClients
  let publicKeyBytes := env.marshalBinary cryptoParams.publicKey
  let buffer2 := putUint32 env.lldProtocolVersion ++ putUint32 publicKeyBytes.length ++ publicKeyBytes
  let buffer3 ← match read3 with
    | .error err2 => throw ("Read error:" ++ err2)
    | .ok data => pure (readInto 1024 data)
  let (clientPublicKeys, sharedSecrets) ← trusteeKeyLoop env cryptoParams.privateKey buffer3
    buffer3.length 0 0 cryptoParams.clientPublicKeys cryptoParams.sharedSecrets
  checkClientKeys clientPublicKeys 0 nClients
  return .established buffer2 { cryptoParams with
    clientPublicKeys := clientPublicKeys
    sharedSecrets := sharedSecrets }

/-! ## The buffers -/

/-- A read whose bytes start with `pre` fills the buffer with `pre` first. -/
theorem readInto_append {n : Nat} {pre : Bytes} (rest : Bytes) (h : pre.length ≤ n) :
    readInto n (pre ++ rest) = pre ++ readInto (n - pre.length) rest := by
  simp only [readInto, List.take_append_eq_append_take, List.take_of_length_le h, List.append_assoc,
    List.length_append, Nat.sub_sub]

@[simp] theorem readInto_replicate_zero (n z : Nat) : readInto n (List.replicate z 0) = List.replicate n 0 := by
  simp only [readInto, List.take_replicate, List.length_replicate, List.append_replicate_replicate]
  congr 1; omega

/-- Bytes followed by zeros fill the buffer with the bytes and zeros. -/
theorem readInto_append_zeros {n : Nat} {data : Bytes} (z : Nat) (h : data.length ≤ n) :
    readInto n (data ++ List.replicate z 0) = data ++ List.replicate (n - data.length) 0 := by
  rw [readInto_append _ h, readInto_replicate_zero]

@[simp] theorem setupField_putUint32_zero (x : Nat) (rest : Bytes) :
    setupField (putUint32 x ++ rest) 0 = x % 2 ^ 32 := by
  simp only [setupField, Nat.mul_zero, List.drop_zero, List.take_left' (length_putUint32 x),
    bigEndian_putUint32]

@[simp] theorem setupField_putUint32_succ (x : Nat) (rest : Bytes) (k : Nat) :
    setupField (putUint32 x ++ rest) (k + 1) = setupField rest k := by
  simp only [setupField, Nat.mul_succ, Nat.add_comm (4 * k) 4, ← List.drop_drop,
    List.drop_left' (length_putUint32 x)]

/-- The setup message's fields read back, each modulo `2^32`, whatever
follows it in the buffer. -/
theorem setupField_setupMessage (v c n t i : Nat) (rest : Bytes) :
    setupField (readInto 1024 (setupMessage v c n t i ++ rest)) 0 = v % 2 ^ 32 ∧
      setupField (readInto 1024 (setupMessage v c n t i ++ rest)) 2 = n % 2 ^ 32 ∧
      setupField (readInto 1024 (setupMessage v c n t i ++ rest)) 4 = i % 2 ^ 32 := by
  rw [readInto_append rest (by simp [setupMessage])]
  simp only [setupMessage, List.append_assoc, setupField_putUint32_zero, setupField_putUint32_succ,
    and_self]

/-! ## The key loop -/

section Loop

variable {env : TrusteeEnv Point Scalar} (priv : Scalar)

/-- One key: its length, its bytes and its point go into slot `id`, with its
shared secret. -/
theorem trusteeKeyLoop_key (pre suf : Bytes) {b : Bytes} {pk : Point} (hpos : 0 < b.length)
    (hlt : b.length < 2 ^ 32) (hu : env.unmarshalBinary b = .ok pk) (fuel id : Nat)
    {A S : List (Option Point)} (hid : id < A.length) (hAS : A.length = S.length) :
    trusteeKeyLoop env priv (pre ++ putUint32 b.length ++ b ++ suf) (fuel + 1) pre.length id A S =
      trusteeKeyLoop env priv (pre ++ putUint32 b.length ++ b ++ suf) fuel
        (pre ++ putUint32 b.length ++ b).length (id + 1) (A.set id (some pk))
        (S.set id (some (env.mul pk priv))) := by
  have hword := sliceRange_mid pre (putUint32 b.length) (b ++ suf)
  have hkey := sliceRange_mid (pre ++ putUint32 b.length) b suf
  simp only [List.length_append, length_putUint32, List.append_assoc] at hword hkey ⊢
  simp only [trusteeKeyLoop, hword, hkey, bind, Except.bind, bigEndian_putUint32,
    Nat.mod_eq_of_lt hlt, Nat.pos_iff_ne_zero.mp hpos, if_false, hu, sliceSet_of_lt _ hid,
    sliceSet_of_lt _ (hAS ▸ hid)]
  rw [← Nat.add_assoc]; rfl

/-- **A run of keys fills the next slots**: after any prefix, the
length-prefixed keys go, in order and with their shared secrets, into the
slots after the filled `ds`, given a slot and an iteration for each. -/
theorem trusteeKeyLoop_encodeKeys {pks : List Point} {keys : List Bytes}
    (h : List.Forall₂ (fun pk b => 0 < b.length ∧ b.length < 2 ^ 32 ∧ env.unmarshalBinary b = .ok pk)
      pks keys)
    (pre suf : Bytes) (fuel : Nat) (ds es R R' : List (Option Point)) (hds : ds.length = es.length)
    (hR : keys.length ≤ R.length) (hRR : R.length = R'.length) :
    trusteeKeyLoop env priv (pre ++ encodeKeys keys ++ suf) (fuel + keys.length) pre.length ds.length
        (ds ++ R) (es ++ R') =
      trusteeKeyLoop env priv (pre ++ encodeKeys keys ++ suf) fuel (pre ++ encodeKeys keys).length
        (ds.length + keys.length) (ds ++ pks.map some ++ R.drop keys.length)
        (es ++ pks.map (fun pk => some (env.mul pk priv)) ++ R'.drop keys.length) := by
  induction h generalizing pre ds es R R' with
  | nil => simp
  | @cons pk b pks keys hb _ ih =>
    obtain ⟨hpos, hlt, hu⟩ := hb
    obtain ⟨r, R, rfl⟩ : ∃ r R₀, R = r :: R₀ := List.exists_cons_of_length_pos (by simp at hR; omega)
    obtain ⟨r', R', rfl⟩ : ∃ r R₀, R' = r :: R₀ := List.exists_cons_of_length_pos (by simp at hRR; omega)
    have hstep := trusteeKeyLoop_key priv pre (encodeKeys keys ++ suf) hpos hlt hu (fuel + keys.length)
      ds.length (A := ds ++ r :: R) (S := es ++ r' :: R') (by simp) (by simp [hds, hRR])
    have hset : ∀ (xs ys : List (Option Point)) y z n, n = xs.length →
        (xs ++ y :: ys).set n z = xs ++ [z] ++ ys := by
      rintro xs ys y z n rfl; simp
    specialize ih (pre ++ putUint32 b.length ++ b) (ds ++ [some pk]) (es ++ [some (env.mul pk priv)])
      R R' (by simp [hds]) (by simp at hR; omega) (by simpa using hRR)
    rw [hset ds R r _ _ rfl, hset es R' r' _ _ hds] at hstep
    simp only [List.append_assoc, encodeKeys_cons, List.length_append, List.length_cons,
      List.length_singleton, length_putUint32] at hstep ih ⊢
    rw [show fuel + (keys.length + 1) = fuel + keys.length + 1 by omega, hstep]
    simpa [Nat.add_assoc, Nat.add_comm 1] using ih

/-- A length of 0 ends the loop with the slots as they are. -/
theorem trusteeKeyLoop_stop (pre : Bytes) {z : Nat} (hz : 4 ≤ z) (fuel id : Nat)
    (A S : List (Option Point)) :
    trusteeKeyLoop env priv (pre ++ List.replicate z 0) (fuel + 1) pre.length id A S = .ok (A, S) := by
  have hword : sliceRange (pre ++ List.replicate z 0) (pre.length : Nat) (pre.length + 4 : Nat) =
      .ok (List.replicate 4 0) := by
    rw [sliceRange_ofNat (by omega) (by simp; omega), List.drop_left, Nat.add_sub_cancel_left,
      List.take_replicate, Nat.min_eq_left hz]
  simp only [trusteeKeyLoop, hword, bind, Except.bind]
  rfl

/-- Fewer than four bytes left: slicing the next length panics. -/
theorem trusteeKeyLoop_at_end {buf : Bytes} {currentByte : Nat} (h : buf.length < currentByte + 4)
    (fuel id : Nat) (A S : List (Option Point)) :
    trusteeKeyLoop env priv buf (fuel + 1) currentByte id A S =
      .error (sliceBoundsOutOfRange (currentByte + 4) buf.length) := by
  simp only [trusteeKeyLoop, sliceRange, bind, Except.bind]
  rw [if_neg (by omega), if_pos (by omega)]
  rfl

/-- A key with no slot left panics on storing it. -/
theorem trusteeKeyLoop_key_past_end (pre suf : Bytes) {b : Bytes} {pk : Point} (hpos : 0 < b.length)
    (hlt : b.length < 2 ^ 32) (hu : env.unmarshalBinary b = .ok pk) (fuel id : Nat)
    {A S : List (Option Point)} (hid : A.length ≤ id) :
    trusteeKeyLoop env priv (pre ++ putUint32 b.length ++ b ++ suf) (fuel + 1) pre.length id A S =
      .error (indexOutOfRange id A.length) := by
  have hword := sliceRange_mid pre (putUint32 b.length) (b ++ suf)
  have hkey := sliceRange_mid (pre ++ putUint32 b.length) b suf
  simp only [List.length_append, length_putUint32, List.append_assoc] at hword hkey ⊢
  simp only [trusteeKeyLoop, hword, hkey, bind, Except.bind, bigEndian_putUint32,
    Nat.mod_eq_of_lt hlt, Nat.pos_iff_ne_zero.mp hpos, if_false, hu, sliceSet_of_le _ hid]
  rfl

/-- The run from the start of the buffer, into empty slots. -/
theorem trusteeKeyLoop_encodeKeys_start {pks : List Point} {keys : List Bytes}
    (h : List.Forall₂ (fun pk b => 0 < b.length ∧ b.length < 2 ^ 32 ∧ env.unmarshalBinary b = .ok pk)
      pks keys)
    (suf : Bytes) (fuel : Nat) {n : Nat} (hn : keys.length ≤ n) :
    trusteeKeyLoop env priv (encodeKeys keys ++ suf) (fuel + keys.length) 0 0 (List.replicate n none)
        (List.replicate n none) =
      trusteeKeyLoop env priv (encodeKeys keys ++ suf) fuel (encodeKeys keys).length keys.length
        (pks.map some ++ List.replicate (n - keys.length) none)
        (pks.map (fun pk => some (env.mul pk priv)) ++ List.replicate (n - keys.length) none) := by
  have hrun := trusteeKeyLoop_encodeKeys priv h [] suf fuel [] [] (List.replicate n none)
    (List.replicate n none) rfl (by simpa) rfl
  simpa only [List.nil_append, List.length_nil, Nat.zero_add, List.drop_replicate] using hrun

/-- Keys for the first slots, then a length of 0: the slots are returned. -/
theorem trusteeKeyLoop_encodeKeys_stop {pks : List Point} {keys : List Bytes}
    (h : List.Forall₂ (fun pk b => 0 < b.length ∧ b.length < 2 ^ 32 ∧ env.unmarshalBinary b = .ok pk)
      pks keys)
    {z n fuel : Nat} (hz : 4 ≤ z) (hn : keys.length ≤ n) (hf : keys.length < fuel) :
    trusteeKeyLoop env priv (encodeKeys keys ++ List.replicate z 0) fuel 0 0 (List.replicate n none)
        (List.replicate n none) =
      .ok (pks.map some ++ List.replicate (n - keys.length) none,
        pks.map (fun pk => some (env.mul pk priv)) ++ List.replicate (n - keys.length) none) := by
  obtain ⟨f, rfl⟩ : ∃ f, fuel = f + 1 + keys.length := ⟨fuel - 1 - keys.length, by omega⟩
  rw [trusteeKeyLoop_encodeKeys_start priv h _ _ hn, trusteeKeyLoop_stop priv _ hz]

/-- Keys for the first slots that end within four bytes of the buffer's end:
slicing the next length panics. -/
theorem trusteeKeyLoop_encodeKeys_at_end {pks : List Point} {keys : List Bytes}
    (h : List.Forall₂ (fun pk b => 0 < b.length ∧ b.length < 2 ^ 32 ∧ env.unmarshalBinary b = .ok pk)
      pks keys)
    {z n fuel : Nat} (hz : z < 4) (hn : keys.length ≤ n) (hf : keys.length < fuel) :
    trusteeKeyLoop env priv (encodeKeys keys ++ List.replicate z 0) fuel 0 0 (List.replicate n none)
        (List.replicate n none) =
      .error (sliceBoundsOutOfRange ((encodeKeys keys).length + 4) ((encodeKeys keys).length + z)) := by
  obtain ⟨f, rfl⟩ : ∃ f, fuel = f + 1 + keys.length := ⟨fuel - 1 - keys.length, by omega⟩
  rw [trusteeKeyLoop_encodeKeys_start priv h _ _ hn, trusteeKeyLoop_at_end priv (by simp; omega)]
  simp

/-- The trustee's loop reads the layout `UnMarshalPublicKeyArrayFromByteArray`'s
loop reads, without its check that four bytes are left: on keys that end
within four bytes of the buffer's end, that loop returns them and the
trustee's panics. -/
theorem trusteeKeyLoop_needs_end {pks : List Point} {keys : List Bytes}
    (h : List.Forall₂ (fun pk b => 0 < b.length ∧ b.length < 2 ^ 32 ∧ env.unmarshalBinary b = .ok pk)
      pks keys)
    {z : Nat} (hz : z < 4) :
    unmarshalKeys env.unmarshalBinary (encodeKeys keys ++ List.replicate z 0) (keys.length + 1) 0 0 [] =
        .ok pks ∧
      trusteeKeyLoop env priv (encodeKeys keys ++ List.replicate z 0) (keys.length + 1) 0 0
          (List.replicate keys.length none) (List.replicate keys.length none) =
        .error (sliceBoundsOutOfRange ((encodeKeys keys).length + 4) ((encodeKeys keys).length + z)) :=
  ⟨by simpa using unmarshalKeys_encodeKeys h [] z (Nat.lt_succ_self _) 0 [],
    trusteeKeyLoop_encodeKeys_at_end priv h hz le_rfl (Nat.lt_succ_self _)⟩

/-- More keys than slots: the key after the last slot panics. -/
theorem trusteeKeyLoop_encodeKeys_overflow {pks : List Point} {keys : List Bytes}
    (h : List.Forall₂ (fun pk b => 0 < b.length ∧ b.length < 2 ^ 32 ∧ env.unmarshalBinary b = .ok pk)
      pks keys)
    (suf : Bytes) {n fuel : Nat} (hn : n < keys.length) (hf : n < fuel) :
    trusteeKeyLoop env priv (encodeKeys keys ++ suf) fuel 0 0 (List.replicate n none)
        (List.replicate n none) = .error (indexOutOfRange n n) := by
  obtain ⟨f, rfl⟩ : ∃ f, fuel = f + 1 + n := ⟨fuel - 1 - n, by omega⟩
  have hk : (keys.take n).length = n := List.length_take_of_le hn.le
  obtain ⟨b, keys', hd⟩ : ∃ b keys', keys.drop n = b :: keys' :=
    List.exists_cons_of_length_pos (by simp; omega)
  have hdrop := List.forall₂_drop n h
  rw [hd] at hdrop
  obtain ⟨pk, -, ⟨hpos, hlt, hu⟩, -, -⟩ := List.forall₂_cons_right_iff.mp hdrop
  have hrun := trusteeKeyLoop_encodeKeys_start priv (List.forall₂_take n h)
    (encodeKeys (b :: keys') ++ suf) (f + 1) hk.le
  have hpast := trusteeKeyLoop_key_past_end priv (encodeKeys (keys.take n)) (encodeKeys keys' ++ suf)
    hpos hlt hu f n (A := (pks.take n).map some ++ [])
    (S := (pks.take n).map (fun pk => some (env.mul pk priv)) ++ []) (by simp)
  rw [hk, Nat.sub_self, List.replicate_zero] at hrun
  rw [← List.take_append_drop n keys, encodeKeys_append, hd, List.append_assoc, hrun]
  simp only [encodeKeys_cons, List.append_assoc] at hpast ⊢
  rw [hpast, List.append_nil, List.length_map, List.length_take, Nat.min_eq_left (h.length_eq ▸ hn.le)]

end Loop

/-! ## The check -/

/-- Slots that hold keys pass the check. -/
theorem checkClientKeys_filled (pks : List Point) (R : List (Option Point)) :
    ∀ {i n : Nat}, i + n ≤ pks.length → checkClientKeys (pks.map some ++ R) i n = .ok ()
  | _, 0, _ => rfl
  | i, n + 1, h => by
    have hi : (pks.map some ++ R)[i]? = some (some pks[i]) := by
      rw [List.getElem?_append_left (by simp; omega)]; simp
    simp only [checkClientKeys, sliceIndex, hi, bind, Except.bind, Option.isNone_some]
    exact checkClientKeys_filled pks R (by omega)

/-- The first empty slot panics with its index. -/
theorem checkClientKeys_missing (pks : List Point) (R : List (Option Point)) :
    ∀ {i n : Nat}, i ≤ pks.length → pks.length < i + n →
      checkClientKeys (pks.map some ++ none :: R) i n =
        .error ("Trustee : didn't get the public key from client " ++ toString pks.length)
  | _, 0, _, h => absurd h (by omega)
  | i, n + 1, hi, hn => by
    rcases Nat.lt_or_ge i pks.length with hlt | hge
    · have hsome : (pks.map some ++ none :: R)[i]? = some (some pks[i]) := by
        rw [List.getElem?_append_left (by simp; omega)]; simp
      simp only [checkClientKeys, sliceIndex, hsome, bind, Except.bind, Option.isNone_some]
      exact checkClientKeys_missing pks R (by omega) (by omega)
    · obtain rfl : i = pks.length := by omega
      have hnone : (pks.map some ++ none :: R)[pks.length]? = some none := by
        rw [List.getElem?_append_right (by simp)]; simp
      simp only [checkClientKeys, sliceIndex, hnone, bind, Except.bind, Option.isNone_none]
      rfl

/-! ## The handshake -/

@[simp] theorem length_readInto (n : Nat) (data : Bytes) : (readInto n data).length = n := by
  simp only [readInto, List.length_append, List.length_take, List.length_replicate]; omega

/-- With the server's version in the setup message, the handler picks its
key pair from the id in it and runs the key loop and the check over the
second buffer. -/
theorem handleConnection_setupMessage (env : TrusteeEnv Point Scalar) {c n t i : Nat}
    (rest data : Bytes) (hv : env.lldProtocolVersion < 2 ^ 32) (hn : n < 2 ^ 32) :
    let cp := initateTrusteeCrypto env (i % 2 ^ 32) n
    let kb := env.marshalBinary cp.publicKey
    handleConnection env (setupMessage env.lldProtocolVersion c n t i ++ rest) (.ok data) = do
      let (clientPublicKeys, sharedSecrets) ← trusteeKeyLoop env cp.privateKey (readInto 1024 data)
        1024 0 0 (List.replicate n none) (List.replicate n none)
      checkClientKeys clientPublicKeys 0 n
      return .established (putUint32 env.lldProtocolVersion ++ putUint32 kb.length ++ kb)
        { cp with
          clientPublicKeys := clientPublicKeys
          sharedSecrets := sharedSecrets } := by
  obtain ⟨h0, h2, h4⟩ := setupField_setupMessage env.lldProtocolVersion c n t i rest
  simp only [handleConnection, h0, h2, h4, Nat.mod_eq_of_lt hv, Nat.mod_eq_of_lt hn, ne_eq,
    not_true_eq_false, if_false, pure_bind, length_readInto]
  rfl

section Handshake

variable (env : TrusteeEnv Point Scalar) {cellSize nClients nTrustees trusteeId : Nat} (rest : Bytes)
  {pks : List Point} {keys : List Bytes}

/-- **The handshake**: after the setup message with the server's version,
exactly `nClients` keys, each after its length, with four bytes of the buffer
left after them, give the handler every client's key and shared secret, in
order; it has written the version, its key's length and its key. -/
theorem handleConnection_established
    (hkeys : List.Forall₂
      (fun pk b => 0 < b.length ∧ b.length < 2 ^ 32 ∧ env.unmarshalBinary b = .ok pk) pks keys)
    (z : Nat) (hv : env.lldProtocolVersion < 2 ^ 32) (ht : trusteeId < 2 ^ 32)
    (hn : keys.length = nClients) (hfit : (encodeKeys keys).length + 4 ≤ 1024) :
    let cp := initateTrusteeCrypto env trusteeId nClients
    let kb := env.marshalBinary cp.publicKey
    handleConnection env (setupMessage env.lldProtocolVersion cellSize nClients nTrustees trusteeId ++ rest)
        (.ok (encodeKeys keys ++ List.replicate z 0)) =
      .ok (.established (putUint32 env.lldProtocolVersion ++ putUint32 kb.length ++ kb)
        { cp with
          clientPublicKeys := pks.map some
          sharedSecrets := pks.map fun pk => some (env.mul pk cp.privateKey) }) := by
  have h4 := length_encodeKeys_ge keys
  have hlen := hkeys.length_eq
  rw [handleConnection_setupMessage env rest _ hv (by omega), Nat.mod_eq_of_lt ht,
    readInto_append_zeros z (by omega), trusteeKeyLoop_encodeKeys_stop _ hkeys (by omega) hn.le (by omega)]
  simp only [bind, Except.bind, ← hn, Nat.sub_self, List.replicate_zero]
  rw [checkClientKeys_filled pks [] (i := 0) (n := keys.length) (by omega)]
  simp only [List.append_nil]
  rfl

/-- A suite on bytes for the examples: a point is a byte, and a key's first
byte. -/
def byteTrusteeEnv : TrusteeEnv UInt8 UInt8 where
  lldProtocolVersion := 1
  pick name := name.length.toUInt8
  base := 2
  mul p k := p * k
  marshalBinary p := [p]
  unmarshalBinary
    | p :: _ => .ok p
    | [] => .error "empty key"

/-- Two clients' keys, as `startClient` and the relay would send them. -/
theorem handleConnection_two_clients :
    let cp := initateTrusteeCrypto byteTrusteeEnv 0 2
    let kb := byteTrusteeEnv.marshalBinary cp.publicKey
    handleConnection byteTrusteeEnv (setupMessage byteTrusteeEnv.lldProtocolVersion 10 2 1 0 ++ [])
        (.ok (encodeKeys [[5], [6]] ++ List.replicate 0 0)) =
      .ok (.established (putUint32 byteTrusteeEnv.lldProtocolVersion ++ putUint32 kb.length ++ kb)
        { cp with
          clientPublicKeys := [5, 6].map some
          sharedSecrets := [5, 6].map fun pk => some (byteTrusteeEnv.mul pk cp.privateKey) }) :=
  handleConnection_established byteTrusteeEnv [] (.cons ⟨by decide, by decide, by rfl⟩
    (.cons ⟨by decide, by decide, by rfl⟩ .nil)) 0 (by decide) (by decide) rfl (by decide)

/-- **Any other number of keys panics**: too few name the first client
without a key; too many overrun the slots. -/
theorem handleConnection_keyCount_ne
    (hkeys : List.Forall₂
      (fun pk b => 0 < b.length ∧ b.length < 2 ^ 32 ∧ env.unmarshalBinary b = .ok pk) pks keys)
    (z : Nat) (hv : env.lldProtocolVersion < 2 ^ 32) (hn : nClients < 2 ^ 32)
    (hk : keys.length ≠ nClients) (hfit : (encodeKeys keys).length + 4 ≤ 1024) :
    handleConnection env (setupMessage env.lldProtocolVersion cellSize nClients nTrustees trusteeId ++ rest)
        (.ok (encodeKeys keys ++ List.replicate z 0)) =
      .error (if keys.length < nClients then
          "Trustee : didn't get the public key from client " ++ toString keys.length
        else indexOutOfRange nClients nClients) := by
  have h4 := length_encodeKeys_ge keys
  have hlen := hkeys.length_eq
  rw [handleConnection_setupMessage env rest _ hv hn, readInto_append_zeros z (by omega)]
  rcases Nat.lt_or_gt_of_ne hk with hlt | hgt
  · obtain ⟨m, hm⟩ : ∃ m, nClients - keys.length = m + 1 := ⟨nClients - keys.length - 1, by omega⟩
    rw [trusteeKeyLoop_encodeKeys_stop _ hkeys (by omega) hlt.le (by omega), hm, if_pos hlt]
    simp only [bind, Except.bind, List.replicate_succ, ← hlen,
      checkClientKeys_missing pks (List.replicate m none) (i := 0) (n := nClients) (Nat.zero_le _)
        (by omega)]
  · rw [trusteeKeyLoop_encodeKeys_overflow _ hkeys _ hgt (by omega), if_neg (by omega)]
    rfl

/-- One key for two clients: client 1 has none. -/
theorem handleConnection_one_key_two_clients :
    handleConnection byteTrusteeEnv (setupMessage byteTrusteeEnv.lldProtocolVersion 10 2 1 0 ++ [])
        (.ok (encodeKeys [[5]] ++ List.replicate 0 0)) =
      .error (if [[5]].length < 2 then
          "Trustee : didn't get the public key from client " ++ toString [[5]].length
        else indexOutOfRange 2 2) :=
  handleConnection_keyCount_ne byteTrusteeEnv [] (.cons ⟨by decide, by decide, by rfl⟩ .nil) 0
    (by decide) (by decide) (by decide) (by decide)

/-- **The keys need four bytes after them**: exactly `nClients` keys that end
within four bytes of the buffer's end make the handler panic on slicing the
next length. -/
theorem handleConnection_noRoomForEnd
    (hkeys : List.Forall₂
      (fun pk b => 0 < b.length ∧ b.length < 2 ^ 32 ∧ env.unmarshalBinary b = .ok pk) pks keys)
    (z : Nat) (hv : env.lldProtocolVersion < 2 ^ 32) (hn : keys.length = nClients)
    (hend : 1020 < (encodeKeys keys).length) (hfit : (encodeKeys keys).length ≤ 1024) :
    handleConnection env (setupMessage env.lldProtocolVersion cellSize nClients nTrustees trusteeId ++ rest)
        (.ok (encodeKeys keys ++ List.replicate z 0)) =
      .error (sliceBoundsOutOfRange ((encodeKeys keys).length + 4) 1024) := by
  have h4 := length_encodeKeys_ge keys
  rw [handleConnection_setupMessage env rest _ hv (by omega), readInto_append_zeros z hfit,
    trusteeKeyLoop_encodeKeys_at_end _ hkeys (by omega) hn.le (by omega), Nat.add_sub_cancel' hfit]
  rfl

/-- One key of 1018 bytes: the 1022 bytes of the layout leave two. -/
theorem handleConnection_long_key :
    handleConnection byteTrusteeEnv (setupMessage byteTrusteeEnv.lldProtocolVersion 10 1 1 0 ++ [])
        (.ok (encodeKeys [List.replicate 1018 7] ++ List.replicate 0 0)) =
      .error (sliceBoundsOutOfRange ((encodeKeys [List.replicate 1018 7]).length + 4) 1024) :=
  have hlen : (encodeKeys [List.replicate 1018 (7 : UInt8)]).length = 1022 := by
    rw [encodeKeys_cons, encodeKeys_nil, List.append_nil, List.length_append, length_putUint32,
      List.length_replicate]
  handleConnection_noRoomForEnd byteTrusteeEnv [] (.cons ⟨by rw [List.length_replicate]; decide,
    by rw [List.length_replicate]; decide, by rfl⟩ .nil) 0 (by decide) rfl (by rw [hlen]; decide) (by rw [hlen]; decide)

end Handshake

end Prifi
