import Prifi.Bytes

/-!
# The client's socket readers (`timestamp/proof.go`)

Two goroutines of the client move bytes between its sockets and
`startClient`'s loop. Both use one frame layout (`frame`): a connection id as
a big-endian `uint32`, a length as a `uint16`, and that many bytes.

`readDataFromRelay` reads the relay's stream with `io.ReadFull`: a 6-byte
header, then the data it announces, which it sends on `dataFromRelay`; it
loops until the stream ends and then panics. `io.ReadFull` waits until its
buffer is full or the stream has ended, so how the network splits the stream
does not show, and the model reads the stream whole:

- `readDataFromRelay_frames`: on the frames of `fs` followed by a tail that
  holds no whole frame, it sends `fs` and panics with the tail's message
  (`tailPanic`);
- `readDataFromRelay_sound`: on any stream, what it sends re-encodes to a
  prefix of the stream, and the rest holds no whole frame.

`readDataFromSocksProxy` reads a SOCKS connection with `conn.Read` into a
cell of `payloadLength` bytes, after a 6-byte header with the client's id and
the number of bytes read, and sends every cell; the cell of the read that
finds the connection ended says 0 bytes:

- **`readDataFromRelay_socksCells`**: the goroutine sends one cell of
  `payloadLength` bytes per read and a closing one, and returns; the frames at
  the heads of those cells, sent as one stream, are read back as the client's
  id with the bytes of each read, in order, then an empty frame.

What the model leaves to the network is the split of a SOCKS connection into
reads (`reads`, each a `ReadResult`).
-/

namespace Prifi

/-! ## Reading the relay's stream -/

/-- How a connection's stream ends: `io.EOF`, or another error. -/
inductive StreamEnd
  | eof
  | error (msg : String)

/-- The text of the error a read returns at the end of the stream after
reading `got`: `io.EOF` when it read nothing, `io.ErrUnexpectedEOF` when it
read some of its buffer. -/
def StreamEnd.errorText : StreamEnd → Bytes → String
  | .eof, [] => "EOF"
  | .eof, _ :: _ => "unexpected EOF"
  | .error msg, _ => msg

/-- `io.ReadFull(r, buf)` with `len(buf) = n` on the rest `stream` of a
connection that then ends with `e`: the `n` bytes and what follows them, or
the number of bytes read and the error's text. -/
def readFull (e : StreamEnd) (n : Nat) (stream : Bytes) : Except (Nat × String) (Bytes × Bytes) :=
  if n ≤ stream.length then .ok (stream.take n, stream.drop n)
  else .error (stream.length, e.errorText stream)

/-- The loop of `readDataFromRelay`: the `dataWithConnectionId` values it
sends on `dataFromRelay`, in order, and the message of the panic that ends
it. `fuel` bounds the iterations. -/
def readDataFromRelayLoop (e : StreamEnd) : (fuel : Nat) → Bytes → List (Nat × Bytes) × String
  | 0, _ => ([], "")
  | fuel + 1, stream =>
    match readFull e 6 stream with
    | .error (_, err) => ([], "clientReadRelay: " ++ err)
    | .ok (header, stream) =>
      let connectionId := bigEndian (header.take 4)
      let dataLength := bigEndian (header.drop 4)
      match readFull e dataLength stream with
      | .error (n, err) =>
        ([], "readDataFromRelay: read data length (" ++ toString n ++
          ") not matching expected length (" ++ toString dataLength ++ ")" ++ err)
      | .ok (data, stream) =>
        Prod.map (List.cons (connectionId, data)) id (readDataFromRelayLoop e fuel stream)

/-- `readDataFromRelay(relayConn, dataFromRelay)` (`proof.go:427`) on a
stream that ends with `e`. Every iteration reads at least six bytes, so one
per byte is enough. -/
def readDataFromRelay (e : StreamEnd) (stream : Bytes) : List (Nat × Bytes) × String :=
  readDataFromRelayLoop e (stream.length + 1) stream

/-- A frame: the connection id as a big-endian `uint32`, the length of the
data as a `uint16`, the data. -/
def frame (connectionId : Nat) (data : Bytes) : Bytes :=
  putUint32 connectionId ++ putUint16 data.length ++ data

/-- Frames one after another. -/
def frames (fs : List (Nat × Bytes)) : Bytes := fs.flatMap fun f => frame f.1 f.2

/-- A frame whose id and length fit its header. -/
def FrameFits (f : Nat × Bytes) : Prop := f.1 < 2 ^ 32 ∧ f.2.length < 2 ^ 16

instance : DecidablePred FrameFits := fun _ => inferInstanceAs (Decidable (_ ∧ _))

/-- A stream in which no whole frame starts: shorter than six bytes plus the
length its header would announce. -/
def NoFrame (tail : Bytes) : Prop := tail.length < 6 + bigEndian ((tail.drop 4).take 2)

instance : DecidablePred NoFrame := fun _ => inferInstanceAs (Decidable (_ < _))

/-- The panic on a tail with no whole frame: in the header's read, or in the
data's. -/
def tailPanic (e : StreamEnd) (tail : Bytes) : String :=
  if tail.length < 6 then "clientReadRelay: " ++ e.errorText tail
  else "readDataFromRelay: read data length (" ++ toString (tail.length - 6) ++
    ") not matching expected length (" ++ toString (bigEndian ((tail.drop 4).take 2)) ++ ")" ++
    e.errorText (tail.drop 6)

@[simp] theorem frames_nil : frames [] = [] := rfl

@[simp] theorem frames_cons (f : Nat × Bytes) (fs : List (Nat × Bytes)) :
    frames (f :: fs) = frame f.1 f.2 ++ frames fs := by
  simp [frames]

theorem frames_append (fs fs' : List (Nat × Bytes)) : frames (fs ++ fs') = frames fs ++ frames fs' :=
  List.flatMap_append ..

theorem length_frames_ge (fs : List (Nat × Bytes)) : 6 * fs.length ≤ (frames fs).length := by
  induction fs with
  | nil => simp
  | cons f fs ih =>
    simp only [frames_cons, frame, List.length_append, length_putUint32, length_putUint16,
      List.length_cons]
    omega

section Relay

variable (e : StreamEnd)

theorem readFull_append {n : Nat} {b : Bytes} (h : b.length = n) (rest : Bytes) :
    readFull e n (b ++ rest) = .ok (b, rest) := by
  simp [readFull, ← h]

/-- One frame: the loop sends it and goes on after it. -/
theorem readDataFromRelayLoop_frame {f : Nat × Bytes} (hf : FrameFits f) (rest : Bytes)
    (fuel : Nat) :
    readDataFromRelayLoop e (fuel + 1) (frame f.1 f.2 ++ rest) =
      Prod.map (List.cons f) id (readDataFromRelayLoop e fuel rest) := by
  obtain ⟨i, d⟩ := f
  obtain ⟨hi, hd⟩ := hf
  have hheader := readFull_append e (n := 6) (b := putUint32 i ++ putUint16 d.length) (by simp) (d ++ rest)
  have hdata := readFull_append e (b := d) rfl rest
  simp only [frame, List.append_assoc] at hheader ⊢
  simp only [readDataFromRelayLoop, hheader, List.take_left' (length_putUint32 i),
    List.drop_left' (length_putUint32 i), bigEndian_putUint32, bigEndian_putUint16,
    Nat.mod_eq_of_lt hi, Nat.mod_eq_of_lt hd, hdata]

/-- **Frames are sent in order**: after frames that fit their headers, the
loop goes on with what follows them. -/
theorem readDataFromRelayLoop_frames {fs : List (Nat × Bytes)} (hfs : ∀ f ∈ fs, FrameFits f)
    (rest : Bytes) (fuel : Nat) :
    readDataFromRelayLoop e (fuel + fs.length) (frames fs ++ rest) =
      Prod.map (fs ++ ·) id (readDataFromRelayLoop e fuel rest) := by
  induction fs with
  | nil => simp [Prod.map]
  | cons f fs ih =>
    rw [frames_cons, List.append_assoc, List.length_cons, ← Nat.add_assoc,
      readDataFromRelayLoop_frame e (hfs f (List.mem_cons_self _ _)),
      ih fun g hg => hfs g (List.mem_cons_of_mem _ hg)]
    simp [Prod.map]

/-- The header's length field, read through the header's buffer. -/
theorem bigEndian_drop_take_six (stream : Bytes) :
    bigEndian ((stream.take 6).drop 4) = bigEndian ((stream.drop 4).take 2) := by
  rw [List.drop_take]

/-- A whole frame at the head of the stream: the loop sends it and goes on
after it. -/
theorem readDataFromRelayLoop_succ {stream : Bytes} (h6 : 6 ≤ stream.length)
    (hL : bigEndian ((stream.drop 4).take 2) ≤ (stream.drop 6).length) (fuel : Nat) :
    readDataFromRelayLoop e (fuel + 1) stream =
      Prod.map (List.cons (bigEndian (stream.take 4),
          (stream.drop 6).take (bigEndian ((stream.drop 4).take 2)))) id
        (readDataFromRelayLoop e fuel ((stream.drop 6).drop (bigEndian ((stream.drop 4).take 2)))) := by
  simp only [readDataFromRelayLoop, readFull, if_pos h6, bigEndian_drop_take_six, if_pos hL,
    List.take_take, Nat.min_eq_left (by omega : 4 ≤ 6)]

/-- A tail with no whole frame: the loop panics there, sending nothing. -/
theorem readDataFromRelayLoop_tail {tail : Bytes} (hnf : NoFrame tail) (fuel : Nat) :
    readDataFromRelayLoop e (fuel + 1) tail = ([], tailPanic e tail) := by
  unfold NoFrame at hnf
  by_cases h6 : tail.length < 6
  · simp only [readDataFromRelayLoop, readFull, tailPanic, if_neg (show ¬6 ≤ tail.length by omega),
      if_pos h6]
  · have hL : ¬bigEndian ((tail.drop 4).take 2) ≤ tail.length - 6 := by omega
    simp only [readDataFromRelayLoop, readFull, tailPanic, if_pos (show 6 ≤ tail.length by omega),
      if_neg h6, bigEndian_drop_take_six, List.length_drop, if_neg hL]

/-- **The reader sends the frames of the stream**: on frames that fit their
headers followed by a tail with no whole frame, it sends the frames and
panics with the tail's message. -/
theorem readDataFromRelay_frames {fs : List (Nat × Bytes)} (hfs : ∀ f ∈ fs, FrameFits f)
    {tail : Bytes} (hnf : NoFrame tail) :
    readDataFromRelay e (frames fs ++ tail) = (fs, tailPanic e tail) := by
  have hlen := length_frames_ge fs
  obtain ⟨k, hk⟩ : ∃ k, (frames fs ++ tail).length + 1 = k + 1 + fs.length :=
    ⟨(frames fs ++ tail).length - fs.length, by simp; omega⟩
  rw [readDataFromRelay, hk, readDataFromRelayLoop_frames e hfs, readDataFromRelayLoop_tail e hnf]
  simp [Prod.map]

/-- A frame, then two bytes of a header. -/
theorem readDataFromRelay_one_frame :
    readDataFromRelay .eof (frames [(1, [7, 8])] ++ [0, 0]) = ([(1, [7, 8])], tailPanic .eof [0, 0]) :=
  readDataFromRelay_frames .eof (by decide) (by decide)

/-- What the loop sends re-encodes to a prefix of the stream, and the rest
holds no whole frame. -/
theorem readDataFromRelayLoop_sound :
    ∀ (fuel : Nat) (stream : Bytes), stream.length < fuel →
      ∃ tail, stream = frames (readDataFromRelayLoop e fuel stream).1 ++ tail ∧ NoFrame tail ∧
        ∀ f ∈ (readDataFromRelayLoop e fuel stream).1, FrameFits f
  | 0, _, h => absurd h (Nat.not_lt_zero _)
  | fuel + 1, stream, h => by
    by_cases hframe : NoFrame stream
    · rw [readDataFromRelayLoop_tail e hframe]
      exact ⟨stream, rfl, hframe, fun _ h => nomatch h⟩
    unfold NoFrame at hframe
    have h6 : 6 ≤ stream.length := by omega
    have hL : bigEndian ((stream.drop 4).take 2) ≤ (stream.drop 6).length := by
      rw [List.length_drop]; omega
    rw [readDataFromRelayLoop_succ e h6 hL]
    obtain ⟨tail, htail, hnf, hfit⟩ := readDataFromRelayLoop_sound fuel
      ((stream.drop 6).drop (bigEndian ((stream.drop 4).take 2))) (by simp only [List.length_drop]; omega)
    have h4 : (stream.take 4).length = 4 := by simp only [List.length_take]; omega
    have h2 : ((stream.drop 4).take 2).length = 2 := by
      simp only [List.length_take, List.length_drop]; omega
    have hdata : ((stream.drop 6).take (bigEndian ((stream.drop 4).take 2))).length =
        bigEndian ((stream.drop 4).take 2) := by simp only [List.length_take]; omega
    have h6' : stream.drop 6 = (stream.drop 4).drop 2 := by rw [List.drop_drop]
    refine ⟨tail, ?_, hnf, ?_⟩
    · simp only [Prod.map, frames_cons, frame, hdata, List.append_assoc] at htail ⊢
      rw [putUint32_bigEndian h4, putUint16_bigEndian h2, ← htail, List.take_append_drop, h6',
        List.take_append_drop, List.take_append_drop]
    · rintro f (_ | ⟨_, hf⟩)
      · have hid := bigEndian_lt (stream.take 4)
        have hlen := bigEndian_lt ((stream.drop 4).take 2)
        rw [h4] at hid; rw [h2] at hlen
        exact ⟨lt_of_lt_of_eq hid (by decide),
          lt_of_le_of_lt (List.length_take_le _ _) (lt_of_lt_of_eq hlen (by decide))⟩
      · exact hfit f hf

/-- **The reader sends the frames at the head of any stream**: what it sends
fits the header and re-encodes to a prefix of the stream, whose rest holds no
whole frame and gives the panic. -/
theorem readDataFromRelay_sound (stream : Bytes) :
    ∃ tail, stream = frames (readDataFromRelay e stream).1 ++ tail ∧ NoFrame tail ∧
      (∀ f ∈ (readDataFromRelay e stream).1, FrameFits f) ∧
      (readDataFromRelay e stream).2 = tailPanic e tail := by
  obtain ⟨tail, hs, hnf, hfit⟩ := readDataFromRelayLoop_sound e _ stream (Nat.lt_succ_self _)
  have hrun := readDataFromRelay_frames e hfit hnf
  rw [← hs] at hrun
  exact ⟨tail, hs, hnf, hfit, congrArg Prod.snd hrun⟩

end Relay

/-! ## The SOCKS connection's cells -/

/-- `socksHeaderLength`. -/
def socksHeaderLength : Nat := 6

/-- The bytes a successful `conn.Read` into `m` bytes returns: at least one,
and at most `m`. -/
abbrev ReadResult (m : Nat) := { b : Bytes // 0 < b.length ∧ b.length ≤ m }

/-- The cell a read of `data` fills: `payloadLength` bytes, with the
client's id and `uint16(len(data))` in the header and the data after it. -/
def socksCell (clientId payloadLength : Nat) (data : Bytes) : Bytes :=
  putUint32 clientId ++ putUint16 data.length ++ data ++
    List.replicate (payloadLength - socksHeaderLength - data.length) 0

/-- The loop of `readDataFromSocksProxy` once its read buffer is not empty:
a cell per successful read; when a read finds the connection ended, a cell
with no data, and the goroutine closes the connection, sends its id on
`closed` and returns. -/
def socksCells (clientId payloadLength : Nat) : List Bytes → List Bytes
  | [] => [socksCell clientId payloadLength []]
  | data :: reads => socksCell clientId payloadLength data :: socksCells clientId payloadLength reads

/-- `readDataFromSocksProxy(clientId, payloadLength, conn, data, closed)`
(`proof.go:485`) on a connection whose successful reads return `reads`: the
cells it sends on `data`, and the panic that ends it, or `none` when it
returns. A read into an empty buffer returns no byte and a `nil` error, whose
`Error()` the goroutine then calls. -/
def readDataFromSocksProxy (clientId : Nat) (payloadLength : Int)
    (reads : List (ReadResult (payloadLength.toNat - socksHeaderLength))) :
    List Bytes × Option String :=
  match makeBytes payloadLength with
  | .error msg => ([], some msg)
  | .ok buffer =>
    match sliceRange buffer socksHeaderLength buffer.length with
    | .error msg => ([], some msg)
    | .ok readBuffer =>
      if readBuffer = [] then ([socksCell clientId buffer.length []], some nilPointerDereference)
      else (socksCells clientId buffer.length (reads.map Subtype.val), none)

/-- What a reader of a cell's header keeps of it: the header and the bytes
it announces. -/
def cellFrame (cell : Bytes) : Bytes := cell.take (6 + bigEndian ((cell.drop 4).take 2))

/-- With room for a read, the goroutine sends a cell per read and the empty
cell, and returns. -/
theorem readDataFromSocksProxy_of_lt (clientId : Nat) {payloadLength : Int}
    (h : (socksHeaderLength : Int) < payloadLength)
    (reads : List (ReadResult (payloadLength.toNat - socksHeaderLength))) :
    readDataFromSocksProxy clientId payloadLength reads =
      (socksCells clientId payloadLength.toNat (reads.map Subtype.val), none) := by
  have h6 : socksHeaderLength < payloadLength.toNat := by simp only [socksHeaderLength] at h ⊢; omega
  simp only [readDataFromSocksProxy, makeBytes_of_nonneg (by omega : 0 ≤ payloadLength),
    List.length_replicate]
  rw [sliceRange_ofNat h6.le (by simp)]
  simp only [List.drop_replicate, List.take_replicate, List.replicate_eq_nil_iff]
  rw [if_neg (by omega)]

/-- The frame at the head of a cell, when the read's length fits the
header. -/
theorem cellFrame_socksCell (clientId payloadLength : Nat) {data : Bytes}
    (hd : data.length < 2 ^ 16) :
    cellFrame (socksCell clientId payloadLength data) = frame clientId data := by
  simp only [cellFrame, socksCell, frame, List.append_assoc]
  rw [List.drop_left' (length_putUint32 _), List.take_left' (length_putUint16 _),
    bigEndian_putUint16, Nat.mod_eq_of_lt hd, ← List.append_assoc, ← List.append_assoc,
    List.take_left' (by simp; omega), List.append_assoc]

/-- A cell has `payloadLength` bytes when the read fits after the header. -/
theorem length_socksCell (clientId payloadLength : Nat) {data : Bytes}
    (hd : data.length + socksHeaderLength ≤ payloadLength) :
    (socksCell clientId payloadLength data).length = payloadLength := by
  simp only [socksCell, List.length_append, length_putUint32, length_putUint16, List.length_replicate,
    socksHeaderLength] at hd ⊢
  omega

/-- One cell per read and a closing one, each of `payloadLength` bytes. -/
theorem socksCells_spec (clientId payloadLength : Nat) :
    ∀ {ds : List Bytes}, (∀ d ∈ ds, d.length + socksHeaderLength ≤ payloadLength) →
      socksHeaderLength ≤ payloadLength →
      (socksCells clientId payloadLength ds).length = ds.length + 1 ∧
      ∀ c ∈ socksCells clientId payloadLength ds, c.length = payloadLength
  | [], _, h6 => ⟨rfl, by simpa [socksCells] using length_socksCell clientId payloadLength (by simpa using h6)⟩
  | d :: ds, hds, h6 => by
    obtain ⟨hlen, hmem⟩ := socksCells_spec clientId payloadLength
      (fun d' hd' => hds d' (List.mem_cons_of_mem _ hd')) h6
    refine ⟨by simp [socksCells, hlen], fun c hc => ?_⟩
    rcases List.mem_cons.mp hc with rfl | hc
    · exact length_socksCell clientId payloadLength (hds d (List.mem_cons_self _ _))
    · exact hmem c hc

/-- The frames at the heads of the cells, sent as one stream, are the reads'
frames and the closing empty one. -/
theorem flatten_cellFrame_socksCells (clientId payloadLength : Nat) :
    ∀ {ds : List Bytes}, (∀ d ∈ ds, d.length < 2 ^ 16) →
      ((socksCells clientId payloadLength ds).map cellFrame).flatten =
        frames (ds.map (fun d => (clientId, d)) ++ [(clientId, [])])
  | [], _ => by simp [socksCells, cellFrame_socksCell]
  | d :: ds, hds => by
    simp only [socksCells, List.map_cons, List.flatten_cons, cellFrame_socksCell _ _ (hds d (List.mem_cons_self _ _)),
      flatten_cellFrame_socksCells clientId payloadLength fun d' hd' => hds d' (List.mem_cons_of_mem _ hd'),
      List.cons_append, frames_cons]

/-- **The relay's reader reads back the SOCKS reader's cells**: the goroutine
sends one cell of `payloadLength` bytes per read and a closing one, and
returns; the frames at the heads of these cells, sent as one stream, are
read as the client's id with the bytes of each read, in order, then an empty
frame, and the stream's end. -/
theorem readDataFromRelay_socksCells (e : StreamEnd) {clientId : Nat} {payloadLength : Int}
    (hid : clientId < 2 ^ 32) (h : (socksHeaderLength : Int) < payloadLength)
    (hfit : payloadLength.toNat - socksHeaderLength < 2 ^ 16)
    (reads : List (ReadResult (payloadLength.toNat - socksHeaderLength))) :
    (readDataFromSocksProxy clientId payloadLength reads).2 = none ∧
    (readDataFromSocksProxy clientId payloadLength reads).1.length = reads.length + 1 ∧
    (∀ c ∈ (readDataFromSocksProxy clientId payloadLength reads).1, c.length = payloadLength.toNat) ∧
    readDataFromRelay e ((readDataFromSocksProxy clientId payloadLength reads).1.map cellFrame).flatten =
      (reads.map (fun r => (clientId, r.val)) ++ [(clientId, [])], "clientReadRelay: " ++ e.errorText []) := by
  rw [readDataFromSocksProxy_of_lt clientId h]
  have hreads : ∀ d ∈ reads.map Subtype.val, d.length ≤ payloadLength.toNat - socksHeaderLength := by
    simp only [List.mem_map]; rintro _ ⟨r, -, rfl⟩; exact r.property.2
  have h6 : socksHeaderLength ≤ payloadLength.toNat := by simp only [socksHeaderLength] at h ⊢; omega
  have hcells := socksCells_spec clientId payloadLength.toNat
    (fun d (hd : d ∈ reads.map Subtype.val) => by have := hreads d hd; omega) h6
  rw [List.length_map] at hcells
  refine ⟨rfl, hcells.1, hcells.2, ?_⟩
  have hfits : ∀ f ∈ reads.map (fun r => (clientId, r.val)) ++ [(clientId, [])], FrameFits f := by
    intro f hf
    simp only [List.mem_append, List.mem_map, List.mem_singleton] at hf
    rcases hf with ⟨r, -, rfl⟩ | rfl
    · exact ⟨hid, lt_of_le_of_lt r.property.2 hfit⟩
    · exact ⟨hid, by simp⟩
  rw [flatten_cellFrame_socksCells clientId _ fun d hd => lt_of_le_of_lt (hreads d hd) hfit,
    List.map_map, ← List.append_nil (frames _), readDataFromRelay_frames e (by simpa using hfits)
      (by unfold NoFrame; simp only [List.length_nil]; omega)]
  rfl

/-- One read of three bytes into cells of ten. -/
theorem readDataFromRelay_socksCells_one_read :
    readDataFromRelay .eof ((readDataFromSocksProxy 1 10 [⟨[1, 2, 3], by decide⟩]).1.map cellFrame).flatten =
      ([(1, [1, 2, 3]), (1, [])], "clientReadRelay: EOF") :=
  (readDataFromRelay_socksCells .eof (by decide) (by decide) (by decide) _).2.2.2.trans rfl

end Prifi
