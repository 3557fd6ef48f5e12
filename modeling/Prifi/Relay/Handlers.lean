import Prifi.Relay.State
import Prifi.DCNet.RoundTrip

/-!
# The relay's handlers

One definition per function of `relay.go`, under its name. A handler
returns `Except.error` for a Go panic and, inside `Except.ok`, the new state
with the `error` it returns (`none` for `nil`).

The setup handlers (`Received_ALL_ALL_PARAMETERS`, `Received_TRU_REL_TELL_PK`,
`Received_CLI_REL_TELL_PK_AND_EPH_PK`, `Received_TRU_REL_TELL_NEW_BASE_AND_EPH_PKS`,
`Received_TRU_REL_SHUFFLE_SIG`) move the relay through its states; the cipher
handlers buffer a cipher and, once the current round is complete, run the
round: decode (`upstreamPhase2a_extractOCMap` or
`upstreamPhase2b_extractPayload`), close (`upstreamPhase3_finalizeRound`) and
open new rounds up to the window (`downstreamPhase_sendMany`).

The relay's DC-net entity is the one of `dcnet.go` (`Entity.lean`).
`relay.go` calls a later version of its API: `NewDCNetEntity` without the
disruption flag (modelled as `false`), `DecodeClient` and `DecodeTrustee` on
the cipher's bytes (read by `RelayEnv.cipherFromBytes`), and `DecodeCell`
with a second result, the raw XOR of the ciphers (modelled as the
accumulator).
-/

namespace Prifi

namespace RelayState

variable {σ : Type} (env : RelayEnv σ)

/-! ## Shutdown and parameters -/

/-- `Received_ALL_ALL_SHUTDOWN` (`relay.go:61`): state `SHUTDOWN`, then
`ALL_ALL_SHUTDOWN` to every trustee and every client. -/
def receivedAllAllShutdown (s : RelayState σ) : RelayState σ :=
  let s := s.changeState .shutdown
  let s := s.sendToAll .trustee s.nTrustees .allAllShutdown
  s.sendToAll .client s.nClients .allAllShutdown

/-- The fixed part of the parameters the relay sends, in the order the code
adds them. -/
def parametersMessage (s : RelayState σ) (forceParams : Bool) (trusteesPks : List (Option Bytes)) :
    AllAllParameters :=
  (((((((⟨forceParams, [], trusteesPks⟩ : AllAllParameters).add "NClients" (.int s.nClients)).add
    "NTrustees" (.int s.nTrustees)).add "UseUDP" (.bool s.useUDP)).add "StartNow" (.bool true)).add
    "PayloadSize" (.int s.payloadSize)).add "DCNetType" (.string s.dcNetType)).add
    "DisruptionProtectionEnabled" (.bool s.disruptionProtectionEnabled) |>.add
    "EquivocationProtectionEnabled" (.bool s.equivocationProtectionEnabled)

/-- `BroadcastParameters()`: the parameters to every trustee, each with its
`NextFreeTrusteeID`. -/
def broadcastParameters (s : RelayState σ) : RelayState σ :=
  let msg := s.parametersMessage true []
  (List.range s.nTrustees.toNat).foldl (fun s (j : Nat) =>
    s.send (.trustee j) (.allAllParameters (msg.add "NextFreeTrusteeID" (.int j)))) s

/-- The type assertion of a parameter that only timers and the rate limiter
read; both are left out. -/
def checkIntParameter (msg : AllAllParameters) (key : String) : Except String Unit :=
  (msg.intValueOrElse key 0).map fun _ => ()

/-- `Received_ALL_ALL_PARAMETERS` (`relay.go:89`). -/
def receivedAllAllParameters (s : RelayState σ) (msg : AllAllParameters) :
    Except String (RelayState σ × Option String) := do
  let startNow ← msg.boolValueOrElse "StartNow" false
  let nTrustees ← msg.intValueOrElse "NTrustees" s.nTrustees
  let nClients ← msg.intValueOrElse "NClients" s.nClients
  let payloadSize ← msg.intValueOrElse "PayloadSize" s.payloadSize
  let downCellSize ← msg.intValueOrElse "DownstreamCellSize" s.downstreamCellSize
  let windowSize ← msg.intValueOrElse "WindowSize" s.windowSize
  let useDummyDown ← msg.boolValueOrElse "UseDummyDataDown" s.useDummyDataDown
  let useOpenClosedSlots ← msg.boolValueOrElse "UseOpenClosedSlots" s.useOpenClosedSlots
  let reportingLimit ← msg.intValueOrElse "ExperimentRoundLimit" s.experimentRoundLimit
  let useUDP ← msg.boolValueOrElse "UseUDP" s.useUDP
  let dcNetType ← msg.stringValueOrElse "DCNetType" s.dcNetType
  let disruptionProtection ← msg.boolValueOrElse "DisruptionProtectionEnabled" false
  checkIntParameter msg "OpenClosedSlotsMinDelayBetweenRequests"
  checkIntParameter msg "RelayMaxNumberOfConsecutiveFailedRounds"
  checkIntParameter msg "RelayProcessingLoopSleepTime"
  checkIntParameter msg "RelayRoundTimeOut"
  checkIntParameter msg "RelayTrusteeCacheLowBound"
  checkIntParameter msg "RelayTrusteeCacheHighBound"
  let equivocationProtectionEnabled ←
    msg.boolValueOrElse "EquivocationProtectionEnabled" s.equivocationProtectionEnabled
  let forceDisruptionSinceRound3 ← msg.boolValueOrElse "ForceDisruptionSinceRound3" false
  if payloadSize < 1 then return (s, some "payloadSize cannot be 0")
  let clients ← makeSlice nClients ⟨0, false, none, none⟩
  let trustees ← makeSlice nTrustees ⟨0, false, none, none⟩
  let verifiableDCNetKeys ← makeSlice nTrustees []
  let s := { s with
    clients, trustees, nClients, nTrustees, nTrusteesPkCollected := 0, nClientsPkCollected := 0,
    experimentRoundLimit := reportingLimit, payloadSize, downstreamCellSize := downCellSize,
    useDummyDataDown := useDummyDown, useOpenClosedSlots, useUDP, windowSize,
    numberOfNonAckedDownstreamPackets := 0, equivocationProtectionEnabled,
    forceDisruptionSinceRound3, verifiableDCNetKeys, nVkeysCollected := 0,
    roundManager := RoundManager.new nClients.toNat nTrustees.toNat, dcNetType,
    disruptionProtectionEnabled := disruptionProtection, openClosedSlotsRequestsRoundID := [],
    lastMessageOfClients := [], bEchoFlags := [] }
  if dcNetType = "Verifiable" then throw "Verifiable DCNet not implemented yet"
  if startNow then
    return ((s.changeState .collectingTrusteesPks).broadcastParameters, none)
  return (s, none)

/-! ## Setup -/

/-- The keys of nodes `0 … n-1`, read by index. -/
def nodeKeys (nodes : List NodeRepresentation) (n : Int) (key : NodeRepresentation → Option Bytes) :
    Except String (List (Option Bytes)) :=
  (List.range n.toNat).mapM fun i => key <$> sliceIndex nodes i

/-- `Received_TRU_REL_TELL_PK` (`relay.go:729`). It counts the messages, and
once it has counted `nTrustees` sends the trustees' keys to every client. -/
def receivedTruRelTellPk (s : RelayState σ) (trusteeID : Int) (pk : Option Bytes) :
    Except String (RelayState σ × Option String) := do
  let trustees ← sliceSet s.trustees trusteeID ⟨trusteeID, true, pk, pk⟩
  let s := { s with trustees, nTrusteesPkCollected := s.nTrusteesPkCollected + 1 }
  if s.nTrusteesPkCollected = s.nTrustees then
    let trusteesPk ← nodeKeys s.trustees s.nTrustees (·.publicKey)
    let toSend := (s.parametersMessage false trusteesPk).add "ForceDisruptionSinceRound3"
      (.bool s.forceDisruptionSinceRound3)
    let s := (List.range s.nClients.toNat).foldl (fun s (j : Nat) =>
      s.send (.client j) (.allAllParameters (toSend.add "NextFreeClientID" (.int j)))) s
    return (s.changeState .collectingClientPks, none)
  return (s, none)

/-- `Received_CLI_REL_TELL_PK_AND_EPH_PK` (`relay.go:776`). It counts the
messages, and once it has counted `nClients` starts the shuffle. -/
def receivedCliRelTellPkAndEphPk (s : RelayState σ) (clientID : Int) (pk ephPk : Option Bytes) :
    Except String (RelayState σ × Option String) := do
  let clients ← sliceSet s.clients clientID ⟨clientID, true, pk, ephPk⟩
  let s := { s with clients, nClientsPkCollected := s.nClientsPkCollected + 1 }
  if s.nClientsPkCollected = s.nClients then
    let ephPks ← nodeKeys s.clients s.nClients (·.ephemeralPublicKey)
    let neff := ephPks.foldl env.neffAddClient (env.neffInit s.neffShuffle s.nTrustees)
    let (neff, r) := env.neffSendToNextTrustee neff
    let s := { s with neffShuffle := neff }
    match r with
    | .error e =>
      return (s, some ("Could not do p.relayState.neffShuffle.SendToNextTrustee, error is " ++ e))
    | .ok (m, trusteeID) =>
      let pks ← nodeKeys s.clients s.nClients (·.publicKey)
      let s := s.send (.trustee trusteeID) (.relTruTellClientsPksAndEphPksAndBase m pks)
      return (s.changeState .collectingShuffles, none)
  return (s, none)

/-- `Received_TRU_REL_TELL_NEW_BASE_AND_EPH_PKS` (`relay.go:825`). After the
last shuffle it sends the transcript, builds the relay's DC-net entity and
runs `DecodeStart(0)`. -/
def receivedTruRelTellNewBaseAndEphPks (s : RelayState σ) (newBase : Bytes)
    (newEphPks : List (Option Bytes)) (proof verifiableDCNetKey : Bytes) :
    Except String (RelayState σ × Option String) := do
  let keys ← sliceSet s.verifiableDCNetKeys s.nVkeysCollected verifiableDCNetKey
  let s := { s with verifiableDCNetKeys := keys, nVkeysCollected := s.nVkeysCollected + 1,
                    ephemeralPublicKeys := newEphPks }
  let (neff, r) := env.neffReceivedShuffleFromTrustee s.neffShuffle newBase newEphPks proof
  let s := { s with neffShuffle := neff }
  match r with
  | .error e =>
    return (s, some ("Relay : error in p.relayState.neffShuffle.ReceivedShuffleFromTrustee " ++ e))
  | .ok false =>
    let (neff, r) := env.neffSendToNextTrustee s.neffShuffle
    let s := { s with neffShuffle := neff }
    match r with
    | .error e =>
      return (s, some ("Could not do p.relayState.neffShuffle.SendToNextTrustee, error is " ++ e))
    | .ok (m, trusteeID) =>
      let pks ← nodeKeys s.clients s.nClients (·.publicKey)
      return (s.send (.trustee trusteeID) (.relTruTellClientsPksAndEphPksAndBase m pks), none)
  | .ok true =>
    let (neff, r) := env.neffSendTranscript s.neffShuffle
    let s := { s with neffShuffle := neff }
    match r with
    | .error e =>
      return (s, some ("Could not do p.relayState.neffShuffle.SendTranscript(), error is " ++ e))
    | .ok m =>
      let s := s.sendToAll .trustee s.nTrustees (.relTruTellTranscript m)
      let e ← newDCNetEntity env.suite 0 .relay s.payloadSize s.equivocationProtectionEnabled false []
      let s := { s with dcNet := some (e.decodeStart 0) }
      return (s.changeState .collectingShuffleSignatures, none)

/-- The trustees' keys as `Received_TRU_REL_SHUFFLE_SIG` gathers them: a
`nTrustees`-slice filled by ranging over `trustees`. -/
def gatherTrusteesPks (s : RelayState σ) : Except String (List (Option Bytes)) := do
  let pks ← makeSlice s.nTrustees none
  (List.range s.trustees.length).foldlM (fun pks (i : Nat) =>
    sliceSet pks i (s.trustees.getD i ⟨0, false, none, none⟩).publicKey) pks

/-- `Received_TRU_REL_SHUFFLE_SIG` (`relay.go:898`). After the last
signature it opens round 0, enters `COMMUNICATING` and sets
`numberOfNonAckedDownstreamPackets = 1`. -/
def receivedTruRelShuffleSig (s : RelayState σ) (trusteeID : Int) (sig : Bytes) :
    Except String (RelayState σ × Option String) := do
  let (neff, r) := env.neffReceivedSignatureFromTrustee s.neffShuffle trusteeID sig
  let s := { s with neffShuffle := neff }
  match r with
  | .error e =>
    return (s, some ("Could not do p.relayState.neffShuffle.ReceivedSignatureFromTrustee(), error is " ++ e))
  | .ok false => return (s, none)
  | .ok true =>
    let trusteesPks ← s.gatherTrusteesPks
    let (neff, r) := env.neffVerifySigsAndSendToClients s.neffShuffle trusteesPks
    let s := { s with neffShuffle := neff }
    match r with
    | .error e =>
      return (s, some ("Could not do p.relayState.neffShuffle.VerifySigsAndSendToClients(), error is " ++ e))
    | .ok m =>
      let s := { s with roundManager := s.roundManager.openNextRound }
      let s := s.changeState .communicating
      let s := s.sendToAll .client s.nClients (.relCliTellEphPksAndTrusteesSig m)
      return ({ s with numberOfNonAckedDownstreamPackets := 1 }, none)

/-! ## Rounds -/

/-- The decode calls of `upstreamPhase2a_extractOCMap` and
`upstreamPhase2b_extractPayload`: `DecodeClient(roundID, s)` for every client
slice, then `DecodeTrustee(roundID, s)` for every trustee slice. -/
def decodeCalls (roundID : Int) (clientSlices trusteesSlices : List Bytes) : List DecodeOp :=
  clientSlices.map (fun c => .client roundID (env.cipherFromBytes c)) ++
    trusteesSlices.map (fun c => .trustee roundID (env.cipherFromBytes c))

/-- The relay's DC-net entity; a method call on a `nil` one panics. -/
def dcNetEntity (s : RelayState σ) : Except String DCNetEntity :=
  match s.dcNet with
  | none => .error nilPointerDereference
  | some e => .ok e

/-- `upstreamPhase2a_extractOCMap(roundID)` (`relay.go:330`): decode the
round, and store the schedule computed from the open/closed map. -/
def upstreamPhase2aExtractOCMap (s : RelayState σ) (roundID : Int) :
    Except String (RelayState σ × Option String) := do
  let (clientSlices, trusteesSlices) := s.roundManager.collectRoundData
  let e ← (← s.dcNetEntity).decodeAll (decodeCalls env roundID clientSlices trusteesSlices)
  let openClosedData ← e.decodeCell
  let newSchedule := env.computeFinalSchedule openClosedData s.nClients
  return ({ s with dcNet := some e,
                   roundManager := s.roundManager.setStoredRoundSchedule newSchedule }, none)

/-- The disruption-protection block of `upstreamPhase2b_extractPayload`, on
the decoded cell `upstreamPlaintext`: the `b_echo_last` flag, a `BLAME`
request, and the history; returns the cell without its flag. Without
disruption protection it does nothing. -/
def disruptionCheck (s : RelayState σ) (roundID : Int) (upstreamPlaintext : Bytes) :
    Except String (RelayState σ × Bytes) :=
  if s.disruptionProtectionEnabled then do
    let bEchoLast ← sliceIndex upstreamPlaintext 0
    let s := { s with bEchoFlags := mapSet s.bEchoFlags roundID bEchoLast, disruptionReveal := false }
    let previousRound := roundID - toInt32 s.nClients
    let s :=
      if bEchoLast = 1 ∧ 13 < upstreamPlaintext.length ∧
          (upstreamPlaintext.drop 1).take 5 = "BLAME".toUTF8.toList then
        let blameBitPosition : Int := bigEndian ((upstreamPlaintext.drop 10).take 4)
        let blameRoundID := previousRound - toInt32 s.nClients
        let s := { s with disruptionReveal := true, blamingData := (blameRoundID, blameBitPosition) }
        let toSend := RelayMessage.relAllDisruptionReveal blameRoundID blameBitPosition
        (s.sendToAll .client s.nClients toSend).sendToAll .trustee s.nTrustees toSend
      else s
    let upstreamPlaintext := upstreamPlaintext.drop 1
    let s := if s.equivocationProtectionEnabled then s else
      { s with lastMessageOfClients := mapSet s.lastMessageOfClients roundID upstreamPlaintext,
               hashOfLastUpstreamMessage := env.sha256 upstreamPlaintext }
    return (s, upstreamPlaintext)
  else .ok (s, upstreamPlaintext)

/-- The loop over the PCAP meta-messages after the first, from byte `pos`:
`for pos+17 <= len(upstreamPlaintext)`, stopping at a header that is not
`0x5555`; each one reads `upstreamPlaintext[pos+17]`. `fuel` bounds the
iterations. -/
def pcapLoop (upstreamPlaintext : Bytes) : Nat → Nat → Except String Unit
  | 0, _ => .ok ()
  | fuel + 1, pos =>
    if pos + 17 ≤ upstreamPlaintext.length ∧
        bigEndian ((upstreamPlaintext.drop pos).take 2) = 21845 then do
      let _ ← sliceIndex upstreamPlaintext (pos + 17)
      pcapLoop upstreamPlaintext fuel (pos + 17)
    else .ok ()

/-- The reads of a PCAP meta-message cell (pattern `0x5555`), which feed only
statistics: the slices `[2:4]`, `[4:8]`, `[8:16]` of the first header (the
decoded cell's capacity is its length), its byte `[17]`, then the loop. -/
def pcapMetaMessages (upstreamPlaintext : Bytes) : Except String Unit := do
  if upstreamPlaintext.length < 4 then throw (sliceBoundsOutOfRange 4 upstreamPlaintext.length)
  if upstreamPlaintext.length < 8 then throw (sliceBoundsOutOfRange 8 upstreamPlaintext.length)
  if upstreamPlaintext.length < 16 then throw (sliceBoundsOutOfRange 16 upstreamPlaintext.length)
  let _ ← sliceIndex upstreamPlaintext 17
  pcapLoop upstreamPlaintext upstreamPlaintext.length 17

/-- The end of `upstreamPhase2b_extractPayload` on the payload: a latency
test (`0xAAAA`) goes down again as priority data, a PCAP meta-message
(`0x5555`) is read, the size is checked, and the payload goes to the data
output. -/
def deliverPayload (s : RelayState σ) (upstreamPlaintext : Bytes) :
    Except String (RelayState σ × Option String) := do
  let pattern := if 2 ≤ upstreamPlaintext.length then some (bigEndian (upstreamPlaintext.take 2))
    else none
  let s := { s with priorityDataForClients :=
    if pattern = some 43690 then s.priorityDataForClients ++ [upstreamPlaintext]
    else s.priorityDataForClients }
  if pattern = some 21845 then pcapMetaMessages upstreamPlaintext
  let expectedSize := s.payloadSize - (if s.disruptionProtectionEnabled then 1 else 0) -
    (if s.equivocationProtectionEnabled then 16 else 0)
  if (upstreamPlaintext.length : Int) ≠ expectedSize then
    return (s, some ("Relay : DecodeCell produced wrong-size payload, " ++
      toString upstreamPlaintext.length ++ "!=" ++ toString s.payloadSize))
  return ({ s with dataFromDCNet :=
    if s.dataOutputEnabled then s.dataFromDCNet ++ [upstreamPlaintext] else s.dataFromDCNet }, none)

/-- `upstreamPhase2b_extractPayload()` (`relay.go:373`): decode the current
round; under both protections keep the raw XOR in the history; the
disruption block; deliver the payload. -/
def upstreamPhase2bExtractPayload (s : RelayState σ) :
    Except String (RelayState σ × Option String) := do
  let roundID := s.roundManager.currentRoundID
  let (clientSlices, trusteesSlices) := s.roundManager.collectRoundData
  let e ← (← s.dcNetEntity).decodeAll (decodeCalls env roundID clientSlices trusteesSlices)
  let upstreamPlaintext ← e.decodeCell
  let ciphertext := (e.dcNetRoundDecoder.map (·.xorBuffer)).getD []
  let both := s.equivocationProtectionEnabled && s.disruptionProtectionEnabled
  let s := { s with
    dcNet := some e
    hashOfLastUpstreamMessage := if both then env.sha256 ciphertext else s.hashOfLastUpstreamMessage
    lastMessageOfClients :=
      if both then mapSet s.lastMessageOfClients roundID ciphertext else s.lastMessageOfClients }
  let (s, upstreamPlaintext) ← disruptionCheck env s roundID upstreamPlaintext
  s.deliverPayload upstreamPlaintext

/-- The experiment's stop in `upstreamPhase3_finalizeRound`: at round
`ExperimentRoundLimit`, `Received_ALL_ALL_SHUTDOWN`. -/
def stopAtRoundLimit (s : RelayState σ) : RelayState σ :=
  if s.roundManager.currentRoundID = toInt32 s.experimentRoundLimit then s.receivedAllAllShutdown
  else s

/-- `DecodeStart` of the oldest open round, if one is open: the end of
`upstreamPhase3_finalizeRound`. -/
def decodeStartNextOpen (s : RelayState σ) : Except String (RelayState σ) :=
  match s.roundManager.currentRound with
  | (true, nextRoundID) => (fun e => { s with dcNet := some (e.decodeStart nextRoundID) }) <$> s.dcNetEntity
  | (false, _) => .ok s

/-- `upstreamPhase3_finalizeRound` (`relay.go:536`): one acknowledged packet
less; the stop at `ExperimentRoundLimit`; `CloseRound()`; the history
pruned; and `DecodeStart` of the next open round, if any. -/
def upstreamPhase3FinalizeRound (s : RelayState σ) : Except String (RelayState σ) :=
  let s := { s with numberOfNonAckedDownstreamPackets := s.numberOfNonAckedDownstreamPackets - 1 }
  let s := s.stopAtRoundLimit
  let s := { s with roundManager := s.roundManager.closeRound }
  let earliest := s.roundManager.lastRoundClosed - toInt32 s.nClients
  let s := { s with lastMessageOfClients := s.lastMessageOfClients.filter fun m => ¬m.1 < earliest }
  s.decodeStartNextOpen

/-- The cell `downstreamPhase1_openRoundAndSendData` sends, and the state
with the queue it came from popped: priority data, else data, else one zero
byte; under disruption protection the plaintext of `nClients` rounds before
the last closed one, if that round's `b_echo_last` was set; padded with zeros
to `DownstreamCellSize` under `UseDummyDataDown`. -/
def downstreamCell (s : RelayState σ) : Bytes × RelayState σ :=
  let (content, s) : Bytes × RelayState σ := match s.priorityDataForClients, s.dataForClients with
    | d :: ds, _ => (d, { s with priorityDataForClients := ds })
    | [], d :: ds => (d, { s with dataForClients := ds })
    | [], [] => ([0], s)
  let lastRoundClosed := s.roundManager.lastRoundClosed
  let content :=
    if s.disruptionProtectionEnabled ∧ (s.bEchoFlags.lookup lastRoundClosed).getD 0 = 1 then
      (s.lastMessageOfClients.lookup (lastRoundClosed - toInt32 s.nClients)).getD []
    else content
  let content := if s.useDummyDataDown ∧ (content.length : Int) < s.downstreamCellSize then
      content ++ List.replicate (s.downstreamCellSize.toNat - content.length) 0
    else content
  (content, s)

/-- `DecodeStart(roundID)` if no round is open: the accumulator is free only
then. -/
def decodeStartIfIdle (s : RelayState σ) (roundID : Int) : Except String (RelayState σ) :=
  if s.roundManager.currentRound.1 then .ok s
  else (fun e => { s with dcNet := some (e.decodeStart roundID) }) <$> s.dcNetEntity

/-- The sending part: to every client over TCP, or one UDP broadcast. -/
def sendDownstream (s : RelayState σ) (toSend : RelCliDownstreamData) : RelayState σ :=
  if s.useUDP then s.send .allClients (.relCliDownstreamDataUDP toSend)
  else s.sendToAll .client s.nClients (.relCliDownstreamData toSend)

/-- `downstreamPhase1_openRoundAndSendData` (`relay.go:607`): the cell, the
open/closed request flag, `DecodeStart` if no round is open, open the next
round, send it down, one more packet to acknowledge. -/
def downstreamPhase1OpenRoundAndSendData (s : RelayState σ) : Except String (RelayState σ) := do
  let (content, s) := s.downstreamCell
  let nextDownstreamRoundID := s.roundManager.nextRoundToOpen
  let flagOpenClosedRequest := s.useOpenClosedSlots &&
    env.isNextDownstreamRoundForOpenClosedRequest s.roundManager s.nClients
  let s := { s with openClosedSlotsRequestsRoundID :=
    if flagOpenClosedRequest then nextDownstreamRoundID :: s.openClosedSlotsRequestsRoundID
    else s.openClosedSlotsRequestsRoundID }
  let nextOwner := env.nextOwnerID s.roundManager
  let toSend : RelCliDownstreamData := ⟨nextDownstreamRoundID, nextOwner,
    s.hashOfLastUpstreamMessage, content, false, flagOpenClosedRequest⟩
  let s ← s.decodeStartIfIdle nextDownstreamRoundID
  let s := { s with roundManager := s.roundManager.openNextRound }
  let s := s.sendDownstream toSend
  return { s with numberOfNonAckedDownstreamPackets := s.numberOfNonAckedDownstreamPackets + 1 }

/-- The loop of `downstreamPhase_sendMany`, run `n` times. -/
def sendManyLoop : Nat → RelayState σ → Except String (RelayState σ)
  | 0, s => .ok s
  | n + 1, s => do sendManyLoop n (← s.downstreamPhase1OpenRoundAndSendData env)

/-- `downstreamPhase_sendMany` (`relay.go:320`): `for i :=
numberOfNonAckedDownstreamPackets; i < WindowSize; i++`. -/
def downstreamPhaseSendMany (s : RelayState σ) : Except String (RelayState σ) :=
  sendManyLoop env (s.windowSize - s.numberOfNonAckedDownstreamPackets).toNat s

/-- The switch of `upstreamPhase1_processCiphers`: the open/closed map of a
round that asked for one, else the payload. -/
def upstreamPhase2ExtractRound (s : RelayState σ) (roundID : Int) :
    Except String (RelayState σ × Option String) :=
  if roundID ∈ s.openClosedSlotsRequestsRoundID then upstreamPhase2aExtractOCMap env s roundID
  else upstreamPhase2bExtractPayload env s

/-- `upstreamPhase1_processCiphers` (`relay.go:277`): decode the current
round, finalize it, open rounds up to the window. The errors the two
decoders return are only logged. -/
def upstreamPhase1ProcessCiphers (s : RelayState σ) : Except String (RelayState σ) := do
  let roundID := s.roundManager.currentRoundID
  let (s, _) ← upstreamPhase2ExtractRound env s roundID
  let s ← s.upstreamPhase3FinalizeRound
  downstreamPhaseSendMany env s

/-- The end of the three cipher handlers: run the round once its ciphers
are all in. -/
def processIfComplete (s : RelayState σ) : Except String (RelayState σ) :=
  if s.roundManager.hasAllCiphersForCurrentRound then upstreamPhase1ProcessCiphers env s else .ok s

/-- `Received_CLI_REL_UPSTREAM_DATA` (`relay.go:231`). -/
def receivedCliRelUpstreamData (s : RelayState σ) (clientID roundID : Int) (data : Bytes) :
    Except String (RelayState σ) :=
  processIfComplete env { s with roundManager := s.roundManager.addClientCipher roundID clientID data }

/-- `Received_TRU_REL_DC_CIPHER` (`relay.go:250`). -/
def receivedTruRelDcCipher (s : RelayState σ) (trusteeID roundID : Int) (data : Bytes) :
    Except String (RelayState σ) :=
  processIfComplete env
    { s with roundManager := s.roundManager.addTrusteeCipher roundID trusteeID data }

/-- `Received_CLI_REL_OPENCLOSED_DATA` (`relay.go:265`). -/
def receivedCliRelOpenClosedData (s : RelayState σ) (clientID roundID : Int) (data : Bytes) :
    Except String (RelayState σ) :=
  processIfComplete env { s with roundManager := s.roundManager.addClientCipher roundID clientID data }

end RelayState

end Prifi
