import Prifi.Bytes

/-!
# The client's main loop (`timestamp/proof.go`)

`startClient` (`proof.go:260`) runs a `select` over four channels: new SOCKS
connections, data read from them, closed ones, and downstream cells from the
relay. Data from the SOCKS proxy is appended to `dataForRelayBuffer`; a
downstream cell is forwarded to a SOCKS connection and answered with one
upstream cell, built by `writeNextUpstreamSlice`. The model runs the loop on
the sequence of `select` cases it takes (`clientRun`); the reader goroutines
and the relay only choose that sequence.

`writeNextUpstreamSlice` receives `dataForRelayBuffer` by value, so its
`dataForRelayBuffer = dataForRelayBuffer[1:]` shortens its own copy of the
slice header, which is dropped on return:

- `clientRun_buffer`: the loop's buffer is every chunk received, in order;
  none is ever removed;
- **`clientRun_encodes_first_chunk`**: every upstream cell encodes the first
  chunk the client received (`nil` before there is one), so that chunk is
  sent again and again and the later ones never.

A downstream cell is checked against its connection id `connId`, but
written to (or, empty, closes) `socksProxyActiveConnections[clientId]`, the
client's own id (`downstream_routed_by_clientId`).
-/

namespace Prifi

/-- One case of `startClient`'s `select`; `Conn` is `net.Conn`. -/
inductive ClientEvent (Conn : Type)
  /-- `conn := <-socksProxyNewConnections`. -/
  | newConnection (conn : Conn)
  /-- `data := <-socksProxyData`. -/
  | socksData (data : Bytes)
  /-- `clientId := <-socksProxyConnClosed`. -/
  | connClosed (clientId : Int)
  /-- `dataWithConnId := <-dataFromRelay`. -/
  | fromRelay (connectionId : Int) (data : Bytes)

/-- The chunk a `socksData` case appends to the buffer. -/
def ClientEvent.socksChunk? {Conn : Type} : ClientEvent Conn → Option Bytes
  | .socksData data => some data
  | _ => none

/-- What `startClient` fixes before its loop. `CellCoder.ClientEncode` is
called with the same `payloadLength` and `MessageHistory` every time (the loop
never updates the history), so it is a function of the payload. -/
structure ClientConfig where
  clientId : Int
  useSocksProxy : Bool
  /-- `CellCoder.ClientCellSize(payloadLength)`. -/
  clientPayloadSize : Nat
  /-- `CellCoder.ClientEncode(payload, payloadLength, MessageHistory)`. -/
  clientEncode : Option Bytes → Bytes

/-- The loop's variables and what it hands out: the payloads given to
`ClientEncode` and the cells written to the relay, in order, and the writes
and closes on SOCKS connections. The statistics are left out. -/
structure ClientLoopState (Conn : Type) where
  socksProxyActiveConnections : List (Option Conn)
  dataForRelayBuffer : List Bytes
  encoded : List (Option Bytes)
  relayWrites : List Bytes
  socksWrites : List (Conn × Bytes)
  socksClosed : List Conn

namespace ClientLoopState

variable {Conn : Type} (cfg : ClientConfig)

/-- The loop's start: `socksProxyActiveConnections` with its reserved `nil`
at index 0, an empty buffer. -/
def init : ClientLoopState Conn := ⟨[none], [], [], [], [], []⟩

/-- `socksProxyActiveConnections[i]` used as a connection: the index panic,
or the `nil` interface's. -/
def socksConn (s : ClientLoopState Conn) (i : Int) : Except String Conn := do
  match ← sliceIndexInt s.socksProxyActiveConnections i with
  | some conn => .ok conn
  | none => .error nilPointerDereference

/-- The forwarding of a downstream cell (`proof.go:335`). The test reads
`connId`, but the write and the close use `clientId`, the parameter of
`startClient`: the `clientId` of the `socksProxyConnClosed` case is scoped to
that case. -/
def forwardDownstream (s : ClientLoopState Conn) (connId : Int) (data : Bytes) :
    Except String (ClientLoopState Conn) :=
  if 0 < connId ∧ connId < s.socksProxyActiveConnections.length ∧
      (s.socksProxyActiveConnections.getD connId.toNat none).isSome then
    if 0 < data.length then
      if cfg.useSocksProxy then do
        let conn ← s.socksConn cfg.clientId
        return { s with socksWrites := s.socksWrites ++ [(conn, data)] }
      else .ok s
    else do
      let conn ← s.socksConn cfg.clientId
      return { s with socksClosed := s.socksClosed ++ [conn] }
  else .ok s

end ClientLoopState

/-- `writeNextUpstreamSlice(dataForRelayBuffer, …)` (`proof.go:373`): the
payload it hands to `ClientEncode` and the cell it writes to the relay. Its
`dataForRelayBuffer` is a copy of the caller's slice header, dropped on
return. -/
def writeNextUpstreamSlice (cfg : ClientConfig) (dataForRelayBuffer : List Bytes) :
    Except String (Option Bytes × Bytes) := do
  let (nextUpstreamBytes, _dataForRelayBuffer) : Option Bytes × List Bytes :=
    match dataForRelayBuffer with
    | d :: rest => (some d, rest)
    | [] => (none, [])
  let upstreamSlice := cfg.clientEncode nextUpstreamBytes
  if upstreamSlice.length ≠ cfg.clientPayloadSize then
    throw ("Client slice wrong size, expected " ++ toString cfg.clientPayloadSize ++
      ", but got " ++ toString upstreamSlice.length)
  return (nextUpstreamBytes, upstreamSlice)

namespace ClientLoopState

variable {Conn : Type} (cfg : ClientConfig)

/-- One pass of `startClient`'s loop (`proof.go:311`). -/
def clientStep (s : ClientLoopState Conn) : ClientEvent Conn → Except String (ClientLoopState Conn)
  | .newConnection conn =>
    .ok { s with socksProxyActiveConnections := s.socksProxyActiveConnections ++ [some conn] }
  | .socksData data => .ok { s with dataForRelayBuffer := s.dataForRelayBuffer ++ [data] }
  | .connClosed clientId => do
    let conns ← sliceSet s.socksProxyActiveConnections clientId none
    return { s with socksProxyActiveConnections := conns }
  | .fromRelay connId data => do
    let s ← s.forwardDownstream cfg connId data
    let (payload, cell) ← writeNextUpstreamSlice cfg s.dataForRelayBuffer
    return { s with encoded := s.encoded ++ [payload], relayWrites := s.relayWrites ++ [cell] }

/-- The loop on a sequence of `select` cases. -/
def clientRun (s : ClientLoopState Conn) : List (ClientEvent Conn) → Except String (ClientLoopState Conn)
  | [] => .ok s
  | ev :: evs => do clientRun (← s.clientStep cfg ev) evs

variable {s s' : ClientLoopState Conn}

/-! ## One pass -/

theorem forwardDownstream_buffer {connId : Int} {data : Bytes}
    (h : s.forwardDownstream cfg connId data = .ok s') :
    s'.dataForRelayBuffer = s.dataForRelayBuffer ∧ s'.encoded = s.encoded := by
  have : AllOk (fun s' : ClientLoopState Conn =>
      s'.dataForRelayBuffer = s.dataForRelayBuffer ∧ s'.encoded = s.encoded)
      (s.forwardDownstream cfg connId data) := by
    simp [forwardDownstream]
  exact this _ h

theorem writeNextUpstreamSlice_payload {buf : List Bytes} {payload : Option Bytes} {cell : Bytes}
    (h : writeNextUpstreamSlice cfg buf = .ok (payload, cell)) : payload = buf.head? := by
  have : AllOk (fun r : Option Bytes × Bytes => r.1 = buf.head?) (writeNextUpstreamSlice cfg buf) := by
    cases buf <;> simp [writeNextUpstreamSlice]
  exact this _ h

/-- A pass appends a SOCKS chunk to the buffer, and a downstream cell the
head of the buffer to the payloads. -/
theorem clientStep_spec {ev : ClientEvent Conn} (h : s.clientStep cfg ev = .ok s') :
    s'.dataForRelayBuffer = s.dataForRelayBuffer ++ ev.socksChunk?.toList ∧
      s'.encoded = s.encoded ++ match ev with
        | .fromRelay .. => [s.dataForRelayBuffer.head?]
        | _ => [] := by
  cases ev with
  | newConnection conn => cases h; simp [ClientEvent.socksChunk?]
  | socksData data => cases h; simp [ClientEvent.socksChunk?]
  | connClosed i =>
    simp only [clientStep, except_bind_eq_ok, pure, Except.pure, Except.ok.injEq] at h
    obtain ⟨_, -, rfl⟩ := h
    simp [ClientEvent.socksChunk?]
  | fromRelay connId data =>
    simp only [clientStep, except_bind_eq_ok] at h
    obtain ⟨s₁, h₁, ⟨payload, cell⟩, h₂, h⟩ := h
    cases h
    obtain ⟨hb, he⟩ := forwardDownstream_buffer cfg h₁
    simp [ClientEvent.socksChunk?, hb, he, writeNextUpstreamSlice_payload cfg h₂]

/-! ## Whole runs -/

/-- The chunks of the `socksData` cases, in order. -/
def socksChunks (evs : List (ClientEvent Conn)) : List Bytes := evs.filterMap ClientEvent.socksChunk?

/-- **Nothing leaves the buffer**: after any run it holds every chunk
received, in order. -/
theorem clientRun_buffer {evs : List (ClientEvent Conn)} (h : s.clientRun cfg evs = .ok s') :
    s'.dataForRelayBuffer = s.dataForRelayBuffer ++ socksChunks evs := by
  induction evs generalizing s with
  | nil => cases h; simp [socksChunks]
  | cons ev evs ih =>
    simp only [clientRun, except_bind_eq_ok] at h
    obtain ⟨s₁, h₁, h⟩ := h
    rw [ih h, (clientStep_spec cfg h₁).1]
    cases ev <;> simp [socksChunks, ClientEvent.socksChunk?]

theorem clientRun_append {evs evs' : List (ClientEvent Conn)} :
    s.clientRun cfg (evs ++ evs') = (s.clientRun cfg evs >>= fun s₁ => s₁.clientRun cfg evs') := by
  induction evs generalizing s with
  | nil => rfl
  | cons ev evs ih =>
    simp only [List.cons_append, clientRun]
    cases s.clientStep cfg ev <;> simp [bind, Except.bind, ih]

/-- **Every upstream cell encodes the first chunk received**: at each
downstream cell, the payload handed to `ClientEncode` is the first chunk the
SOCKS proxy delivered since the loop started, or `nil` if none has come. -/
theorem clientRun_encodes_first_chunk {evs : List (ClientEvent Conn)} {connId : Int} {data : Bytes}
    (h : init.clientRun cfg (evs ++ [.fromRelay connId data]) = .ok s') :
    s'.encoded.getLast? = some (socksChunks evs).head? := by
  rw [clientRun_append, except_bind_eq_ok] at h
  obtain ⟨s₁, h₁, h⟩ := h
  simp only [clientRun, except_bind_eq_ok] at h
  obtain ⟨s₂, h₂, h⟩ := h
  cases h
  rw [(clientStep_spec cfg h₂).2, clientRun_buffer cfg h₁]
  simp [init]

end ClientLoopState

/-- A client whose encoder returns one-byte cells, for runs on small
inputs. -/
def ClientConfig.oneByteCells : ClientConfig := ⟨0, false, 1, fun _ => [0]⟩

namespace ClientLoopState

theorem clientRun_encodes_first_chunk_two_cells :
    ∃ s : ClientLoopState Unit, (init.clientRun ClientConfig.oneByteCells
      ([.socksData [1], .socksData [2], .fromRelay 0 []] ++ [.fromRelay 0 []]) = .ok s) ∧
      s.encoded.getLast? = some (some [1]) :=
  let ⟨s, h⟩ : ∃ s : ClientLoopState Unit, init.clientRun ClientConfig.oneByteCells
      ([.socksData [1], .socksData [2], .fromRelay 0 []] ++ [.fromRelay 0 []]) = .ok s := ⟨_, rfl⟩
  ⟨s, h, clientRun_encodes_first_chunk _ h⟩

/-- Two chunks `a` and `b`, then two downstream cells: `ClientEncode` gets
`a` both times and never `b`, and the buffer still holds both. -/
theorem first_chunk_sent_twice (a b : Bytes) : ∃ s : ClientLoopState Unit,
    init.clientRun ClientConfig.oneByteCells
      [.socksData a, .socksData b, .fromRelay 0 [], .fromRelay 0 []] = .ok s ∧
    s.encoded = [some a, some a] ∧ s.dataForRelayBuffer = [a, b] :=
  ⟨_, rfl, rfl, rfl⟩

end ClientLoopState

/-- The client with id 2, the SOCKS proxy on, and one-byte cells. -/
def ClientConfig.socksClientTwo : ClientConfig := ⟨2, true, 1, fun _ => [0]⟩

namespace ClientLoopState

/-- Connections `a` and `b` are registered at indices 1 and 2 (so
`readDataFromSocksProxy` stamps `a`'s data with 1). A downstream cell for
connection 1 is written to `b`, and the empty cell for connection 1 closes
`b`: the loop reads `socksProxyActiveConnections[clientId]`, and this
client's id is 2. -/
theorem downstream_routed_by_clientId {Conn : Type} (a b : Conn) : ∃ s : ClientLoopState Conn,
    init.clientRun ClientConfig.socksClientTwo
      [.newConnection a, .newConnection b, .fromRelay 1 [7], .fromRelay 1 []] = .ok s ∧
    s.socksProxyActiveConnections = [none, some a, some b] ∧
    s.socksWrites = [(b, [7])] ∧ s.socksClosed = [b] :=
  ⟨_, rfl, rfl, rfl, rfl⟩

end ClientLoopState

end Prifi
