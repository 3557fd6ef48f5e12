import Prifi.DCNet.Entity

/-!
# The relay: messages, round manager and state

The relay (`prifi-lib/relay/relay.go`) runs the setup of a PriFi session and
then its DC-net rounds. This module fixes the data the handlers read and
write; `Handlers.lean` has the handlers and `Machine.lean` the runs.

Kyber points, scalars and signatures pass through the relay without being
computed on, so the model carries their encodings as `Bytes`; a Go `nil`
is `none`.

What the repository does not contain is modelled from the spec, each time
with a docstring that says so: the round manager (§4.5), the relay state
machine's state names (§4.6), the relay's half of the Neff shuffle and the
slot scheduler (given as `RelayEnv`, the relay's environment).

- `RoundManager`: open rounds in increasing order, the next round to open,
  the last round closed and the buffered ciphers. `openNextRound` and
  `closeRound` each move one round (`openRounds_openNextRound`,
  `openRounds_closeRound`).
- `RelayState`: the fields of `relayState` the handlers use, the state
  machine's state, and the log of sent messages.
-/

namespace Prifi

/-! ## Parameters messages -/

/-- A value of `ALL_ALL_PARAMETERS.Params` (an `interface{}`). -/
inductive ParamValue
  | int (v : Int)
  | bool (v : Bool)
  | string (v : String)
  deriving DecidableEq, Repr

/-- The Go type name a failed type assertion reports. -/
def ParamValue.typeName : ParamValue → String
  | .int _ => "int"
  | .bool _ => "bool"
  | .string _ => "string"

/-- `ALL_ALL_PARAMETERS`: the parameters map, the flag, and the trustee keys
the relay adds before sending it to the clients. -/
structure AllAllParameters where
  forceParams : Bool
  params : List (String × ParamValue)
  trusteesPks : List (Option Bytes)
  deriving DecidableEq, Repr

namespace AllAllParameters

/-- The panic of `val.Data.(T)` on a value of another type. -/
def conversionPanic (v : ParamValue) (target : String) : String :=
  "interface conversion: interface {} is " ++ v.typeName ++ ", not " ++ target

/-- `IntValueOrElse(key, elseVal)` (`all_all_params.go`). -/
def intValueOrElse (m : AllAllParameters) (key : String) (elseVal : Int) : Except String Int :=
  match m.params.lookup key with
  | none => .ok elseVal
  | some (.int v) => .ok v
  | some v => .error (conversionPanic v "int")

/-- `BoolValueOrElse(key, elseVal)`. -/
def boolValueOrElse (m : AllAllParameters) (key : String) (elseVal : Bool) : Except String Bool :=
  match m.params.lookup key with
  | none => .ok elseVal
  | some (.bool v) => .ok v
  | some v => .error (conversionPanic v "bool")

/-- `StringValueOrElse(key, elseVal)`. -/
def stringValueOrElse (m : AllAllParameters) (key : String) (elseVal : String) :
    Except String String :=
  match m.params.lookup key with
  | none => .ok elseVal
  | some (.string v) => .ok v
  | some v => .error (conversionPanic v "string")

/-- `Add(key, val)`: sets `data[key]`. -/
def add (m : AllAllParameters) (key : String) (v : ParamValue) : AllAllParameters :=
  { m with params := (key, v) :: m.params.filter (·.1 ≠ key) }

end AllAllParameters

/-! ## Messages -/

/-- `NodeRepresentation`: a client's or trustee's id, connection flag and
keys. -/
structure NodeRepresentation where
  id : Int
  connected : Bool
  publicKey : Option Bytes
  ephemeralPublicKey : Option Bytes
  deriving DecidableEq, Repr

/-- `REL_CLI_DOWNSTREAM_DATA`. -/
structure RelCliDownstreamData where
  roundID : Int
  ownershipID : Int
  hashOfPreviousUpstreamData : Bytes
  data : Bytes
  flagResync : Bool
  flagOpenClosedRequest : Bool
  deriving DecidableEq, Repr

/-- What the relay sends. The Neff-shuffle messages are built by the
relay's shuffle view and carried as their encodings; the relay overwrites
the `Pks` of the first one. -/
inductive RelayMessage
  | allAllShutdown
  | allAllParameters (m : AllAllParameters)
  | relTruTellClientsPksAndEphPksAndBase (m : Bytes) (pks : List (Option Bytes))
  | relTruTellTranscript (m : Bytes)
  | relCliTellEphPksAndTrusteesSig (m : Bytes)
  | relCliDownstreamData (m : RelCliDownstreamData)
  | relCliDownstreamDataUDP (m : RelCliDownstreamData)
  | relAllDisruptionReveal (roundID : Int) (bitPos : Int)
  deriving DecidableEq, Repr

/-- Where the message sender delivers a message. -/
inductive Destination
  | client (i : Int)
  | trustee (j : Int)
  /-- `BroadcastToAllClientsWithLog`, the UDP broadcast. -/
  | allClients
  deriving DecidableEq, Repr

/-- What the relay receives. -/
inductive RelayInput
  | allAllShutdown
  | allAllParameters (m : AllAllParameters)
  | truRelTellPk (trusteeID : Int) (pk : Option Bytes)
  | cliRelTellPkAndEphPk (clientID : Int) (pk ephPk : Option Bytes)
  | truRelTellNewBaseAndEphPks (newBase : Bytes) (newEphPks : List (Option Bytes)) (proof : Bytes)
      (verifiableDCNetKey : Bytes)
  | truRelShuffleSig (trusteeID : Int) (sig : Bytes)
  | cliRelUpstreamData (clientID : Int) (roundID : Int) (data : Bytes)
  | truRelDcCipher (trusteeID : Int) (roundID : Int) (data : Bytes)
  | cliRelOpenClosedData (clientID : Int) (roundID : Int) (openClosedData : Bytes)
  deriving DecidableEq, Repr

/-- Modelled from the spec (§4.6): the states `p.stateMachine` moves
through; the state machine itself is not in the repository. -/
inductive RelayStateName
  | beforeInit
  | collectingTrusteesPks
  | collectingClientPks
  | collectingShuffles
  | collectingShuffleSignatures
  | communicating
  | shutdown
  deriving DecidableEq, Repr

/-! ## The round manager -/

/-- Modelled from the spec (§4.5): `BufferableRoundManager` is not in the
repository. Rounds are opened in increasing order and closed oldest first;
ciphers are buffered per round and sender, a duplicate is dropped. The rate
limiter is left out. -/
structure RoundManager where
  nClients : Nat
  nTrustees : Nat
  openRounds : List Int
  nextRoundToOpen : Int
  lastRoundClosed : Int
  clientCiphers : List (Int × Int × Bytes)
  trusteeCiphers : List (Int × Int × Bytes)
  storedRoundSchedule : List Bool
  deriving DecidableEq, Repr

namespace RoundManager

/-- `NewBufferableRoundManager(nClients, nTrustees, windowSize)`. -/
def new (nClients nTrustees : Nat) : RoundManager :=
  ⟨nClients, nTrustees, [], 0, -1, [], [], []⟩

variable (rm : RoundManager)

/-- `currentRound()`: whether a round is open, and the oldest open one. -/
def currentRound : Bool × Int :=
  match rm.openRounds with
  | [] => (false, -1)
  | r :: _ => (true, r)

/-- `CurrentRound()`. -/
def currentRoundID : Int := rm.currentRound.2

/-- `OpenNextRound()`. -/
def openNextRound : RoundManager :=
  { rm with openRounds := rm.openRounds ++ [rm.nextRoundToOpen],
            nextRoundToOpen := rm.nextRoundToOpen + 1 }

/-- `CloseRound()`: closes the oldest open round and frees its buffers. -/
def closeRound : RoundManager :=
  match rm.openRounds with
  | [] => rm
  | r :: rs =>
    { rm with openRounds := rs, lastRoundClosed := r,
              clientCiphers := rm.clientCiphers.filter (·.1 ≠ r),
              trusteeCiphers := rm.trusteeCiphers.filter (·.1 ≠ r) }

/-- Whether a buffer holds a cipher of `(roundID, id)`. -/
def hasCipher (buf : List (Int × Int × Bytes)) (roundID id : Int) : Bool :=
  buf.any fun c => c.1 = roundID ∧ c.2.1 = id

/-- `AddClientCipher(roundID, clientID, data)`. -/
def addClientCipher (roundID clientID : Int) (data : Bytes) : RoundManager :=
  if hasCipher rm.clientCiphers roundID clientID then rm
  else { rm with clientCiphers := rm.clientCiphers ++ [(roundID, clientID, data)] }

/-- `AddTrusteeCipher(roundID, trusteeID, data)`. -/
def addTrusteeCipher (roundID trusteeID : Int) (data : Bytes) : RoundManager :=
  if hasCipher rm.trusteeCiphers roundID trusteeID then rm
  else { rm with trusteeCiphers := rm.trusteeCiphers ++ [(roundID, trusteeID, data)] }

/-- `HasAllCiphersForCurrentRound()`: a round is open and every client and
trustee has a cipher buffered for it. -/
def hasAllCiphersForCurrentRound : Bool :=
  match rm.openRounds with
  | [] => false
  | r :: _ => (List.range rm.nClients).all (fun i => hasCipher rm.clientCiphers r i) &&
      (List.range rm.nTrustees).all (fun j => hasCipher rm.trusteeCiphers r j)

/-- The cipher of `(roundID, id)` in a buffer. -/
def cipherOf (buf : List (Int × Int × Bytes)) (roundID id : Int) : Option Bytes :=
  (buf.find? fun c => c.1 = roundID ∧ c.2.1 = id).map (·.2.2)

/-- `CollectRoundData()`: the current round's ciphers, clients then
trustees, each in id order. -/
def collectRoundData : List Bytes × List Bytes :=
  ((List.range rm.nClients).filterMap fun i => cipherOf rm.clientCiphers rm.currentRoundID i,
    (List.range rm.nTrustees).filterMap fun j => cipherOf rm.trusteeCiphers rm.currentRoundID j)

/-- `SetStoredRoundSchedule(schedule)`. -/
def setStoredRoundSchedule (schedule : List Bool) : RoundManager :=
  { rm with storedRoundSchedule := schedule }

@[simp] theorem openRounds_new (n m : Nat) : (new n m).openRounds = [] := rfl

@[simp] theorem nextRoundToOpen_new (n m : Nat) : (new n m).nextRoundToOpen = 0 := rfl

@[simp] theorem openRounds_openNextRound :
    rm.openNextRound.openRounds = rm.openRounds ++ [rm.nextRoundToOpen] := rfl

@[simp] theorem nextRoundToOpen_openNextRound :
    rm.openNextRound.nextRoundToOpen = rm.nextRoundToOpen + 1 := rfl

@[simp] theorem openRounds_closeRound : rm.closeRound.openRounds = rm.openRounds.tail := by
  unfold closeRound; split <;> simp_all

@[simp] theorem openRounds_addClientCipher (r i : Int) (d : Bytes) :
    (rm.addClientCipher r i d).openRounds = rm.openRounds := by
  unfold addClientCipher; split <;> rfl

@[simp] theorem openRounds_addTrusteeCipher (r i : Int) (d : Bytes) :
    (rm.addTrusteeCipher r i d).openRounds = rm.openRounds := by
  unfold addTrusteeCipher; split <;> rfl

@[simp] theorem nextRoundToOpen_addClientCipher (r i : Int) (d : Bytes) :
    (rm.addClientCipher r i d).nextRoundToOpen = rm.nextRoundToOpen := by
  unfold addClientCipher; split <;> rfl

@[simp] theorem nextRoundToOpen_addTrusteeCipher (r i : Int) (d : Bytes) :
    (rm.addTrusteeCipher r i d).nextRoundToOpen = rm.nextRoundToOpen := by
  unfold addTrusteeCipher; split <;> rfl

@[simp] theorem openRounds_setStoredRoundSchedule (s : List Bool) :
    (rm.setStoredRoundSchedule s).openRounds = rm.openRounds := rfl

@[simp] theorem nextRoundToOpen_setStoredRoundSchedule (s : List Bool) :
    (rm.setStoredRoundSchedule s).nextRoundToOpen = rm.nextRoundToOpen := rfl

@[simp] theorem nextRoundToOpen_closeRound : rm.closeRound.nextRoundToOpen = rm.nextRoundToOpen := by
  unfold closeRound; split <;> rfl

/-- `currentRound()` finds a round exactly when one is open. -/
@[simp] theorem currentRound_fst : rm.currentRound.1 = true ↔ rm.openRounds ≠ [] := by
  unfold currentRound; split <;> simp_all

/-- `currentRound()` returns `(true, r)` exactly for the oldest open round. -/
@[simp] theorem currentRound_eq_true {r : Int} :
    rm.currentRound = (true, r) ↔ rm.openRounds.head? = some r := by
  unfold currentRound; split <;> simp_all

/-- `CurrentRound()` is the oldest open round. -/
theorem currentRoundID_of_head {r : Int} (h : rm.openRounds.head? = some r) :
    rm.currentRoundID = r := by
  unfold currentRoundID currentRound; split <;> simp_all

/-- All ciphers of the current round are in only if a round is open. -/
theorem openRounds_ne_nil_of_hasAll (h : rm.hasAllCiphersForCurrentRound = true) :
    rm.openRounds ≠ [] := by
  unfold hasAllCiphersForCurrentRound at h; split at h <;> simp_all

end RoundManager

/-! ## The relay state and its environment -/

/-- Go's `int32(x)`: `x` wrapped to 32 bits. -/
def toInt32 (x : Int) : Int := (x + 2 ^ 31) % 2 ^ 32 - 2 ^ 31

/-- `relayState.X[k] = v` on a Go map. -/
def mapSet {α : Type} (m : List (Int × α)) (k : Int) (v : α) : List (Int × α) :=
  (k, v) :: m.filter (·.1 ≠ k)

/-- Modelled from the spec (§4.3, §4.4, §4.5): the collaborators of the relay
that are not in the repository, and the suite. -/
structure RelayEnv (σ : Type) where
  /-- `config.CryptoSuite`, for the relay's DC-net entity. -/
  suite : CryptoSuite
  /-- How a cipher's bytes are read into a `DCNetCipher`. -/
  cipherFromBytes : Bytes → DCNetCipher
  /-- `sha256.Sum256`. -/
  sha256 : Bytes → Bytes
  /-- `sha256.Sum256` returns a `[32]byte`. -/
  sha256_length : ∀ b, (sha256 b).length = 32
  /-- `neffShuffle.Init(nTrustees)`. -/
  neffInit : σ → Int → σ
  /-- `neffShuffle.AddClient(ephPk)` (its error is not read). -/
  neffAddClient : σ → Option Bytes → σ
  /-- `neffShuffle.SendToNextTrustee()`: the message and the trustee, or an
  error. -/
  neffSendToNextTrustee : σ → σ × Except String (Bytes × Int)
  /-- `neffShuffle.ReceivedShuffleFromTrustee(newBase, newEphPks, proof)`:
  whether all trustees have shuffled, or an error. -/
  neffReceivedShuffleFromTrustee : σ → Bytes → List (Option Bytes) → Bytes → σ × Except String Bool
  /-- `neffShuffle.SendTranscript()`. -/
  neffSendTranscript : σ → σ × Except String Bytes
  /-- `neffShuffle.ReceivedSignatureFromTrustee(trusteeID, sig)`. -/
  neffReceivedSignatureFromTrustee : σ → Int → Bytes → σ × Except String Bool
  /-- `neffShuffle.VerifySigsAndSendToClients(trusteesPks)`. -/
  neffVerifySigsAndSendToClients : σ → List (Option Bytes) → σ × Except String Bytes
  /-- `slotScheduler.Relay_ComputeFinalSchedule(openClosedData, nClients)`. -/
  computeFinalSchedule : Bytes → Int → List Bool
  /-- `roundManager.UpdateAndGetNextOwnerID()`. -/
  nextOwnerID : RoundManager → Int
  /-- `roundManager.IsNextDownstreamRoundForOpenClosedRequest(nClients)`. -/
  isNextDownstreamRoundForOpenClosedRequest : RoundManager → Int → Bool

/-- The fields of `relayState` the handlers read or write, the state
machine's state, and `sent`, the messages handed to the message sender in
order. Go channels are FIFO lists; statistics, timers and the history of
ciphers (written and pruned, never read) are left out. -/
structure RelayState (σ : Type) where
  state : RelayStateName
  nClients : Int
  nTrustees : Int
  nTrusteesPkCollected : Int
  nClientsPkCollected : Int
  clients : List NodeRepresentation
  trustees : List NodeRepresentation
  experimentRoundLimit : Int
  payloadSize : Int
  downstreamCellSize : Int
  useDummyDataDown : Bool
  useOpenClosedSlots : Bool
  useUDP : Bool
  windowSize : Int
  numberOfNonAckedDownstreamPackets : Int
  equivocationProtectionEnabled : Bool
  disruptionProtectionEnabled : Bool
  forceDisruptionSinceRound3 : Bool
  dcNetType : String
  verifiableDCNetKeys : List Bytes
  nVkeysCollected : Int
  ephemeralPublicKeys : List (Option Bytes)
  roundManager : RoundManager
  dcNet : Option DCNetEntity
  neffShuffle : σ
  openClosedSlotsRequestsRoundID : List Int
  lastMessageOfClients : List (Int × Bytes)
  bEchoFlags : List (Int × UInt8)
  hashOfLastUpstreamMessage : Bytes
  disruptionReveal : Bool
  blamingData : Int × Int
  priorityDataForClients : List Bytes
  dataForClients : List Bytes
  dataOutputEnabled : Bool
  dataFromDCNet : List Bytes
  sent : List (Destination × RelayMessage)

namespace RelayState

variable {σ : Type}

/-- Modelled from the spec (§4.6): a relay before its parameters, in the
first state, with nothing collected; the hash of the last upstream cell is
Go's zero `[32]byte`. -/
def init (neff : σ) : RelayState σ where
  state := .beforeInit
  nClients := 0
  nTrustees := 0
  nTrusteesPkCollected := 0
  nClientsPkCollected := 0
  clients := []
  trustees := []
  experimentRoundLimit := -1
  payloadSize := 0
  downstreamCellSize := 0
  useDummyDataDown := false
  useOpenClosedSlots := false
  useUDP := false
  windowSize := 0
  numberOfNonAckedDownstreamPackets := 0
  equivocationProtectionEnabled := false
  disruptionProtectionEnabled := false
  forceDisruptionSinceRound3 := false
  dcNetType := "Simple"
  verifiableDCNetKeys := []
  nVkeysCollected := 0
  ephemeralPublicKeys := []
  roundManager := RoundManager.new 0 0
  dcNet := none
  neffShuffle := neff
  openClosedSlotsRequestsRoundID := []
  lastMessageOfClients := []
  bEchoFlags := []
  hashOfLastUpstreamMessage := List.replicate 32 0
  disruptionReveal := false
  blamingData := (0, 0)
  priorityDataForClients := []
  dataForClients := []
  dataOutputEnabled := false
  dataFromDCNet := []
  sent := []

/-- `messageSender.Send…WithLog(dest, msg, _)`. -/
def send (s : RelayState σ) (d : Destination) (m : RelayMessage) : RelayState σ :=
  { s with sent := s.sent ++ [(d, m)] }

/-- The same message to destinations `0 … n-1`, in order. -/
def sendToAll (s : RelayState σ) (dest : Int → Destination) (n : Int) (m : RelayMessage) :
    RelayState σ :=
  (List.range n.toNat).foldl (fun s (i : Nat) => s.send (dest i) m) s

/-- A loop of sends appends its messages to the log and changes nothing
else. -/
theorem foldl_send {α : Type} (l : List α) (d : α → Destination) (m : α → RelayMessage)
    (s : RelayState σ) :
    l.foldl (fun s i => s.send (d i) (m i)) s = { s with sent := s.sent ++ l.map fun i => (d i, m i) } := by
  induction l generalizing s with
  | nil => simp
  | cons i l ih => rw [List.foldl_cons, ih]; simp [send]

theorem sendToAll_eq (s : RelayState σ) (dest : Int → Destination) (n : Int) (m : RelayMessage) :
    s.sendToAll dest n m =
      { s with sent := s.sent ++ (List.range n.toNat).map fun (i : Nat) => (dest i, m) } :=
  foldl_send (List.range n.toNat) (fun (i : Nat) => dest i) (fun _ => m) s

/-- `p.stateMachine.ChangeState(state)`. -/
def changeState (s : RelayState σ) (st : RelayStateName) : RelayState σ :=
  { s with state := st }

end RelayState

end Prifi
