import Prifi.Bytes

/-!
# Client membership of the relay in `prifi.sh`

The Go part of `prifi.sh` is the relay of package `relay`: its state keeps
the expected client count `nClients` next to the list `clients` of
`prifinet.NodeRepresentation`s. `waitForDefaultNumberOfClients` fills the list
from the new-client channel, `addNewClient` grows both, and
`excludeDisconnectedClients` compacts the list into a slice made with
`nClients - nClientsDisconnected` entries. This module says what the list
holds along any run:

- `waitLoop_eq`: the wait takes exactly the clients still missing, in their
  order of arrival, and blocks when the channel runs dry first;
- `copyConnected_fits`, `copyConnected_overflows`: the copy loop writes the
  connected clients in order, and panics at its first write past the slice;
- **`excludeDisconnectedClients_eq`**: the three outcomes of an exclusion:
  the `makeslice` panic, the index panic when the list is longer than
  `nClients` says, and otherwise the connected clients followed by
  zero-valued entries up to `nClients - nClientsDisconnected`;
- **`excludeDisconnectedClients_of_reachable`**: in every state the relay
  reaches, the list is no longer than `nClients`, so an exclusion succeeds;
- **`excludeDisconnectedClients_twice`**: an exclusion never lowers
  `nClients`, so a second one, with no new disconnection, pads the list
  again with one zero-valued entry per client the first one removed.

Connections and keys are parameters (`Conn`, `Point`); the other fields of
the relay's state are not read by these functions.
-/

namespace Prifi

namespace Relay

variable {Conn Point : Type}

/-- `prifinet.NodeRepresentation`. -/
structure NodeRepresentation (Conn Point : Type) where
  id : Int
  conn : Option Conn
  connected : Bool
  publicKey : Option Point
  deriving DecidableEq, Repr

/-- The zero value `prifinet.NodeRepresentation{}`, which `make` fills a
slice with: id 0, nil connection, not connected, nil key. -/
def NodeRepresentation.zero : NodeRepresentation Conn Point := ⟨0, none, false, none⟩

@[simp] theorem NodeRepresentation.connected_zero :
    (NodeRepresentation.zero : NodeRepresentation Conn Point).connected = false := rfl

/-- The fields of the relay's `RelayState` that its membership functions
read or write. -/
structure RelayState (Conn Point : Type) where
  nClients : Int
  clients : List (NodeRepresentation Conn Point)
  deriving DecidableEq, Repr

namespace RelayState

/-- `initiateRelayState`: a fresh state expecting `nClients` clients, with
none yet. -/
def initiateRelayState (nClients : Int) : RelayState Conn Point := ⟨nClients, []⟩

/-- `addNewClient`. -/
def addNewClient (s : RelayState Conn Point) (newClient : NodeRepresentation Conn Point) :
    RelayState Conn Point :=
  { nClients := s.nClients + 1, clients := s.clients ++ [newClient] }

/-- The loop of `waitForDefaultNumberOfClients` over the clients the channel
delivers: each one is appended until `currentClients` reaches `nClients`;
`none` when the channel runs dry first, where the loop sleeps for ever. -/
def waitLoop (nClients currentClients : Int) (clients : List (NodeRepresentation Conn Point)) :
    List (NodeRepresentation Conn Point) → Option (List (NodeRepresentation Conn Point))
  | [] => if currentClients < nClients then none else some clients
  | newClient :: arrivals =>
    if currentClients < nClients then
      waitLoop nClients (currentClients + 1) (clients ++ [newClient]) arrivals
    else some clients

/-- `waitForDefaultNumberOfClients`, given the clients the channel delivers. -/
def waitForDefaultNumberOfClients (s : RelayState Conn Point)
    (arrivals : List (NodeRepresentation Conn Point)) : Option (RelayState Conn Point) :=
  (waitLoop s.nClients 0 s.clients arrivals).map fun clients => { s with clients := clients }

/-- The copy loop of `excludeDisconnectedClients`: each connected client is
written at `newClients[j]`, `j` counting the clients written so far. -/
def copyConnected :
    List (NodeRepresentation Conn Point) → List (NodeRepresentation Conn Point) → Nat →
      Except String (List (NodeRepresentation Conn Point))
  | [], newClients, _ => .ok newClients
  | c :: clients, newClients, j =>
    if c.connected then do
      let newClients ← sliceSet newClients j c
      copyConnected clients newClients (j + 1)
    else copyConnected clients newClients j

/-- `excludeDisconnectedClients`. It sets `clients` and leaves `nClients`
as it was. -/
def excludeDisconnectedClients (s : RelayState Conn Point) : Except String (RelayState Conn Point) := do
  let nClientsDisconnected := s.clients.countP fun c => !c.connected
  let newNClients := s.nClients - nClientsDisconnected
  let newClients ← makeSlice newNClients NodeRepresentation.zero
  let newClients ← copyConnected s.clients newClients 0
  pure { s with clients := newClients }

/-! ### The wait -/

theorem waitLoop_eq (nClients currentClients : Int) (clients arrivals : List (NodeRepresentation Conn Point)) :
    waitLoop nClients currentClients clients arrivals =
      if (nClients - currentClients).toNat ≤ arrivals.length then
        some (clients ++ arrivals.take (nClients - currentClients).toNat)
      else none := by
  induction arrivals generalizing currentClients clients with
  | nil =>
    by_cases h : currentClients < nClients
    · rw [waitLoop, if_pos h, if_neg (by simp only [List.length_nil]; omega)]
    · rw [waitLoop, if_neg h, if_pos (by simp only [List.length_nil]; omega)]; simp
  | cons c arrivals ih =>
    by_cases h : currentClients < nClients
    · have hk : (nClients - currentClients).toNat = (nClients - (currentClients + 1)).toNat + 1 := by
        omega
      simp only [waitLoop, if_pos h, ih, hk, List.length_cons, Nat.add_le_add_iff_right,
        List.take_succ_cons, List.append_assoc, List.singleton_append]
    · have hk : (nClients - currentClients).toNat = 0 := by omega
      simp [waitLoop, h, hk]

/-! ### The copy loop -/

/-- When the connected clients fit after position `pre.length`, the loop
writes them there in order. -/
theorem copyConnected_fits (clients pre post : List (NodeRepresentation Conn Point))
    (h : (clients.filter (·.connected)).length ≤ post.length) :
    copyConnected clients (pre ++ post) pre.length =
      .ok (pre ++ clients.filter (·.connected) ++ post.drop (clients.filter (·.connected)).length) := by
  induction clients generalizing pre post with
  | nil => simp [copyConnected]
  | cons c clients ih =>
    cases hc : c.connected
    · simp only [List.filter_cons, hc, Bool.false_eq_true, if_false] at h ⊢
      rw [copyConnected, if_neg (by simp [hc])]
      exact ih pre post h
    · simp only [List.filter_cons, hc, if_true, List.length_cons] at h ⊢
      obtain ⟨p, post, rfl⟩ : ∃ p rest, post = p :: rest := List.exists_cons_of_length_pos (by omega)
      have hset : sliceSet (pre ++ p :: post) pre.length c = .ok (pre ++ c :: post) := by
        rw [sliceSet_of_lt c (by simp), List.set_append_right _ _ le_rfl]; simp
      have ih' := ih (pre ++ [c]) post (by simpa using h)
      simp only [List.length_append, List.length_singleton, List.append_assoc,
        List.singleton_append] at ih'
      rw [copyConnected, if_pos hc, hset]
      simpa only [List.drop_succ_cons, List.append_assoc, List.cons_append] using ih'

/-- When they do not fit, the loop panics at its first write past the
slice. -/
theorem copyConnected_overflows (clients pre post : List (NodeRepresentation Conn Point))
    (h : post.length < (clients.filter (·.connected)).length) :
    copyConnected clients (pre ++ post) pre.length =
      .error (indexOutOfRange (pre ++ post).length (pre ++ post).length) := by
  induction clients generalizing pre post with
  | nil => simp at h
  | cons c clients ih =>
    cases hc : c.connected
    · simp only [List.filter_cons, hc, Bool.false_eq_true, if_false] at h
      rw [copyConnected, if_neg (by simp [hc])]
      exact ih pre post h
    · simp only [List.filter_cons, hc, if_true, List.length_cons] at h
      cases post with
      | nil =>
        simp only [List.append_nil]
        rw [copyConnected, if_pos hc, sliceSet_of_le c le_rfl]; rfl
      | cons p post =>
        have hset : sliceSet (pre ++ p :: post) pre.length c = .ok (pre ++ c :: post) := by
          rw [sliceSet_of_lt c (by simp), List.set_append_right _ _ le_rfl]; simp
        have hlen : (pre ++ [c] ++ post).length = (pre ++ p :: post).length := by
          simp only [List.length_append, List.length_cons, List.length_nil]; omega
        have ih' := ih (pre ++ [c]) post (by simpa using h)
        rw [hlen, List.append_assoc, List.singleton_append] at ih'
        rw [copyConnected, if_pos hc, hset]
        simpa only [List.length_append, List.length_singleton] using ih'

/-- The clients split into the connected ones and the `d` disconnected ones. -/
theorem length_eq_filter_connected_add (clients : List (NodeRepresentation Conn Point)) :
    clients.length = (clients.filter (·.connected)).length + clients.countP fun c => !c.connected := by
  rw [← List.countP_eq_length_filter, List.length_eq_countP_add_countP (·.connected)]
  simp

/-! ### Exclusion -/

/-- **The outcomes of an exclusion.** With `d` clients disconnected: the
`makeslice` panic when `d` exceeds `nClients`; the index panic at
`nClients - d` when the list holds more clients than `nClients`; otherwise
the connected clients in order, followed by `nClients - len(clients)`
zero-valued entries, and `nClients` as it was. -/
theorem excludeDisconnectedClients_eq (s : RelayState Conn Point) :
    s.excludeDisconnectedClients =
      if s.nClients < s.clients.countP (fun c => !c.connected) then
        .error "runtime error: makeslice: len out of range"
      else if s.nClients < s.clients.length then
        .error (indexOutOfRange (s.nClients - s.clients.countP fun c => !c.connected).toNat
          (s.nClients - s.clients.countP fun c => !c.connected).toNat)
      else .ok { s with
        clients := s.clients.filter (·.connected) ++
          List.replicate (s.nClients - s.clients.length).toNat .zero } := by
  have hsplit := length_eq_filter_connected_add s.clients
  unfold excludeDisconnectedClients
  generalize s.clients.countP (fun c => !c.connected) = d at hsplit ⊢
  dsimp only
  by_cases hd : s.nClients < d
  · rw [if_pos hd, makeSlice, if_pos (by omega)]
    rfl
  · rw [if_neg hd, makeSlice_of_nonneg _ (by omega : 0 ≤ s.nClients - d)]
    by_cases hlen : s.nClients < s.clients.length
    · have hcopy := copyConnected_overflows s.clients [] (List.replicate (s.nClients - d).toNat .zero)
        (by simp only [List.length_replicate]; omega)
      simp only [List.nil_append, List.length_nil, List.length_replicate] at hcopy
      rw [if_pos hlen]
      simp only [bind, Except.bind, hcopy]
    · have hcopy := copyConnected_fits s.clients [] (List.replicate (s.nClients - d).toNat .zero)
        (by simp only [List.length_replicate]; omega)
      simp only [List.nil_append, List.length_nil, List.drop_replicate] at hcopy
      rw [if_neg hlen]
      have hpad : (s.nClients - d).toNat - (s.clients.filter (·.connected)).length =
          (s.nClients - s.clients.length).toNat := by omega
      simp only [bind, Except.bind, hcopy, hpad]
      rfl

/-- Three clients listed for a count of 2, one disconnected: the slice is
made with one entry and the second connected client overflows it. -/
example : (⟨2, [⟨0, none, true, none⟩, ⟨1, none, false, none⟩, ⟨2, none, true, none⟩]⟩ :
    RelayState Unit Unit).excludeDisconnectedClients =
      .error "runtime error: index out of range [1] with length 1" := rfl

/-- An exclusion that succeeds leaves `nClients - d` entries, `d` being the
clients it found disconnected. -/
theorem length_of_excludeDisconnectedClients {s s' : RelayState Conn Point}
    (h : s.excludeDisconnectedClients = .ok s') :
    s'.nClients = s.nClients ∧
      (s'.clients.length : Int) = s.nClients - s.clients.countP fun c => !c.connected := by
  have hsplit := length_eq_filter_connected_add s.clients
  rw [excludeDisconnectedClients_eq] at h
  split_ifs at h with hd hlen
  cases h
  simp only [List.length_append, List.length_replicate, true_and]
  omega

/-! ### Runs -/

/-- The states the relay's client list goes through: the relay waits for
its clients from a non-negative count; then clients join, the `Connected`
flag of a client changes (it is set by code outside this file), and the
relay excludes the disconnected clients. -/
inductive Reachable : RelayState Conn Point → Prop
  | waitForDefaultNumberOfClients {nClients : Int} {arrivals : List (NodeRepresentation Conn Point)}
      {s : RelayState Conn Point} (hn : 0 ≤ nClients) :
      (initiateRelayState nClients).waitForDefaultNumberOfClients arrivals = some s → Reachable s
  | addNewClient {s : RelayState Conn Point} (newClient : NodeRepresentation Conn Point) :
      Reachable s → Reachable (s.addNewClient newClient)
  | setConnected {s : RelayState Conn Point} (i : Nat) (connected : Bool) :
      Reachable s →
        Reachable { s with clients := s.clients.modify (fun c => { c with connected := connected }) i }
  | excludeDisconnectedClients {s s' : RelayState Conn Point} :
      Reachable s → s.excludeDisconnectedClients = .ok s' → Reachable s'

/-- After the wait, the list holds exactly `nClients` clients. -/
theorem length_of_waitForDefaultNumberOfClients {nClients : Int} {arrivals : List (NodeRepresentation Conn Point)}
    {s : RelayState Conn Point} (hn : 0 ≤ nClients)
    (h : (initiateRelayState nClients).waitForDefaultNumberOfClients arrivals = some s) :
    (s.clients.length : Int) = s.nClients := by
  simp only [waitForDefaultNumberOfClients, initiateRelayState, waitLoop_eq, sub_zero] at h
  split_ifs at h with hle
  · cases h
    simp only [List.nil_append, List.length_take]
    omega
  · simp at h

/-- **The list never outgrows the count.** In every state the relay
reaches, `clients` holds at most `nClients` entries. -/
theorem length_le_of_reachable {s : RelayState Conn Point} (h : Reachable s) :
    (s.clients.length : Int) ≤ s.nClients := by
  induction h with
  | waitForDefaultNumberOfClients hn hs => exact (length_of_waitForDefaultNumberOfClients hn hs).le
  | addNewClient c _ ih =>
    simp only [addNewClient, List.length_append, List.length_singleton, Nat.cast_add, Nat.cast_one]
    omega
  | setConnected i b _ ih => simpa only [List.length_modify] using ih
  | excludeDisconnectedClients _ hs _ =>
    obtain ⟨hn, hlen⟩ := length_of_excludeDisconnectedClients hs
    omega

/-- While the list is no longer than `nClients`, an exclusion keeps the
connected clients in order and pads the list with zero-valued entries up to
`nClients` minus the clients it removed. -/
theorem excludeDisconnectedClients_of_length_le {s : RelayState Conn Point}
    (h : (s.clients.length : Int) ≤ s.nClients) :
    s.excludeDisconnectedClients = .ok { s with
      clients := s.clients.filter (·.connected) ++
        List.replicate (s.nClients - s.clients.length).toNat .zero } := by
  have hd : s.clients.countP (fun c => !c.connected) ≤ s.clients.length := List.countP_le_length _
  rw [excludeDisconnectedClients_eq, if_neg (by omega), if_neg (by omega)]

/-- **An exclusion never panics in a reachable state**: it keeps the
connected clients in order and pads the list with zero-valued entries up to
`nClients` minus the clients it removed. -/
theorem excludeDisconnectedClients_of_reachable {s : RelayState Conn Point} (h : Reachable s) :
    s.excludeDisconnectedClients = .ok { s with
      clients := s.clients.filter (·.connected) ++
        List.replicate (s.nClients - s.clients.length).toNat .zero } :=
  excludeDisconnectedClients_of_length_le (length_le_of_reachable h)

/-- Two connected clients, one of which then drops: the exclusion leaves
one client while `nClients` stays 2. -/
theorem excludeDisconnectedClients_after_one_drop :
    (⟨2, [⟨0, some (), false, none⟩, ⟨1, some (), true, none⟩]⟩ : RelayState Unit Unit).excludeDisconnectedClients =
      .ok ⟨2, [⟨1, some (), true, none⟩]⟩ :=
  (excludeDisconnectedClients_of_reachable
    (.setConnected 0 false (@Reachable.waitForDefaultNumberOfClients Unit Unit 2
      [⟨0, some (), true, none⟩, ⟨1, some (), true, none⟩] _ (by decide) rfl))).trans rfl

/-- **An exclusion is not idempotent.** It leaves `nClients` as it was, so
a second exclusion, with no client dropping in between, makes its slice
`len(clients)` long again: the connected clients, then one zero-valued
entry (no connection, not connected) per client the first one removed. -/
theorem excludeDisconnectedClients_twice {s : RelayState Conn Point}
    (h : (s.clients.length : Int) ≤ s.nClients) :
    ∃ s₁, s.excludeDisconnectedClients = .ok s₁ ∧ s₁.nClients = s.nClients ∧
      s₁.excludeDisconnectedClients = .ok { s₁ with
        clients := s.clients.filter (·.connected) ++
          List.replicate (s.clients.countP fun c => !c.connected) .zero } := by
  have hsplit := length_eq_filter_connected_add s.clients
  have h₁ := excludeDisconnectedClients_of_length_le h
  refine ⟨_, h₁, rfl, ?_⟩
  have hf : (s.clients.filter (·.connected) ++ List.replicate (s.nClients - s.clients.length).toNat
      .zero : List (NodeRepresentation Conn Point)).filter (·.connected) = s.clients.filter (·.connected) := by
    simp [List.filter_append, List.filter_filter, List.filter_replicate]
  have hc : (s.clients.filter (·.connected) ++ List.replicate (s.nClients - s.clients.length).toNat
      .zero : List (NodeRepresentation Conn Point)).countP (fun c => !c.connected) =
        (s.nClients - s.clients.length).toNat := by
    simp [List.countP_append, List.countP_replicate, List.countP_eq_zero]
  rw [excludeDisconnectedClients_eq]
  simp only [hf, hc, List.length_append, List.length_replicate]
  rw [if_neg (by omega), if_neg (by omega)]
  congr 4
  omega

/-- Of two clients, the first drops: the first exclusion leaves the second
alone in the list, the second exclusion lists it with a zero-valued entry. -/
theorem excludeDisconnectedClients_twice_pads :
    ∃ s₁ : RelayState Unit Unit,
      (⟨2, [⟨0, some (), false, none⟩, ⟨1, some (), true, none⟩]⟩ : RelayState Unit Unit).excludeDisconnectedClients =
        .ok s₁ ∧ s₁.nClients = 2 ∧
      s₁.excludeDisconnectedClients = .ok ⟨2, [⟨1, some (), true, none⟩, ⟨0, none, false, none⟩]⟩ := by
  obtain ⟨⟨n, cs⟩, h₁, hn, h₂⟩ := excludeDisconnectedClients_twice
    (s := (⟨2, [⟨0, some (), false, none⟩, ⟨1, some (), true, none⟩]⟩ : RelayState Unit Unit)) (by decide)
  obtain rfl : n = 2 := hn
  exact ⟨_, h₁, rfl, h₂⟩

end RelayState

end Relay

end Prifi
