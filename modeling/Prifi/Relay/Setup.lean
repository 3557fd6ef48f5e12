import Prifi.Relay.Machine

/-!
# Collecting the trustees' keys

`Received_TRU_REL_TELL_PK` (`relay.go:729`) stores the key of trustee `id`
at `trustees[id]` and counts the messages; when the count reaches
`nTrustees` it sends every client the parameters with the keys
`trustees[0 … nTrustees-1]` and moves to `COLLECTING_CLIENT_PKS`. The count is
of messages, not of ids, so a repeated id makes the relay move on with a
`nil` key. When the ids are distinct the count is right:

- `run_tellPks_waiting`: before the last key the relay records each key and
  waits, sending nothing;
- **`tellPks_distinct_ids`**: if trustees `0 … n-1` each tell their key once,
  in any order, right after the parameters, the relay moves on exactly at the
  last one and sends each client every trustee's key at its id, none `nil`.
-/

namespace Prifi

/-- A `mapM` whose every call succeeds. -/
theorem mapM_eq_ok {α β ε : Type} {f : α → Except ε β} {g : α → β} :
    ∀ {l : List α}, (∀ a ∈ l, f a = .ok (g a)) → l.mapM f = .ok (l.map g)
  | [], _ => rfl
  | a :: l, h => by
    rw [List.mapM_cons, h a (List.mem_cons_self _ _), mapM_eq_ok fun b hb => h b (List.mem_cons_of_mem _ hb)]
    rfl

namespace RelayState

variable {σ : Type} (env : RelayEnv σ) {s : RelayState σ}

/-! ## One key -/

/-- The key list of a table of `n` nodes. -/
theorem nodeKeys_eq (nodes : List NodeRepresentation) {n : Int}
    (key : NodeRepresentation → Option Bytes) (h : nodes.length = n.toNat) :
    nodeKeys nodes n key = .ok (nodes.map key) := by
  rw [nodeKeys, mapM_eq_ok (g := fun i => key (nodes.getD i ⟨0, false, none, none⟩))]
  · congr 1
    refine List.ext_getElem (by simp [h]) fun i _ h₂ => ?_
    simp [List.getElem?_eq_getElem (by simpa using h₂)]
  · intro i hi
    rw [List.mem_range, ← h] at hi
    simp [sliceIndex_of_lt hi, Functor.map, Except.map, List.getElem?_eq_getElem hi]

/-- A key that leaves the count below `nTrustees` is stored and counted. -/
theorem receivedTruRelTellPk_counting {i : Int} {pk : Option Bytes}
    (hi : 0 ≤ i ∧ i < s.trustees.length) (hc : s.nTrusteesPkCollected + 1 ≠ s.nTrustees) :
    s.receivedTruRelTellPk i pk = .ok ({ s with
      trustees := s.trustees.set i.toNat ⟨i, true, pk, pk⟩
      nTrusteesPkCollected := s.nTrusteesPkCollected + 1 }, none) := by
  simp [receivedTruRelTellPk, sliceSet, hi, hc, bind, Except.bind, pure, Except.pure]

/-- The key that brings the count to `nTrustees`: the relay sends every
client the parameters with the table's keys and moves on. -/
theorem receivedTruRelTellPk_last (i : Int) (pk : Option Bytes)
    (hi : 0 ≤ i ∧ i < s.trustees.length) (hc : s.nTrusteesPkCollected + 1 = s.nTrustees)
    (hlen : s.trustees.length = s.nTrustees.toNat) :
    ∃ s', s.receivedTruRelTellPk i pk = .ok (s', none) ∧ s'.state = .collectingClientPks ∧
      s'.trustees = s.trustees.set i.toNat ⟨i, true, pk, pk⟩ ∧
      s'.sent = s.sent ++ (List.range s.nClients.toNat).map fun (j : Nat) =>
        (.client j, .allAllParameters (((s.parametersMessage false
          ((s.trustees.set i.toNat ⟨i, true, pk, pk⟩).map (·.publicKey))).add
          "ForceDisruptionSinceRound3" (.bool s.forceDisruptionSinceRound3)).add
          "NextFreeClientID" (.int j))) := by
  have hk := nodeKeys_eq (s.trustees.set i.toNat ⟨i, true, pk, pk⟩) (n := s.nTrustees)
    NodeRepresentation.publicKey (by simp [hlen])
  simp only [receivedTruRelTellPk, sliceSet, hi, and_self, if_true, hc, bind, Except.bind, hk, pure,
    Except.pure, changeState, foldl_send]
  exact ⟨_, rfl, rfl, rfl, rfl⟩

/-! ## A run of keys -/

/-- The trustee table after `TRU_REL_TELL_PK(id, key)` for each `(id, key)`
of `keys`, in order. -/
def recordTrusteeKeys (t : List NodeRepresentation) (keys : List (Int × Bytes)) :
    List NodeRepresentation :=
  keys.foldl (fun t k => t.set k.1.toNat ⟨k.1, true, some k.2, some k.2⟩) t

theorem length_recordTrusteeKeys (t : List NodeRepresentation) (keys : List (Int × Bytes)) :
    (recordTrusteeKeys t keys).length = t.length := by
  induction keys generalizing t with
  | nil => rfl
  | cons k keys ih => exact (ih _).trans (List.length_set _ _ _)

/-- With distinct ids, entry `i` of the table holds the key sent for `i`,
if any. -/
theorem recordTrusteeKeys_publicKey {t : List NodeRepresentation} {keys : List (Int × Bytes)}
    (hnd : (keys.map Prod.fst).Nodup) (hk : ∀ k ∈ keys, 0 ≤ k.1 ∧ k.1 < t.length) (i : Nat) :
    ((recordTrusteeKeys t keys).getD i ⟨0, false, none, none⟩).publicKey =
      (keys.lookup (i : Int)).elim (t.getD i ⟨0, false, none, none⟩).publicKey some := by
  induction keys generalizing t with
  | nil => rfl
  | cons k keys ih =>
    obtain ⟨a, b⟩ := k
    simp only [List.map_cons, List.nodup_cons, List.mem_map] at hnd
    obtain ⟨ha0, hal⟩ := hk (a, b) (List.mem_cons_self _ _)
    rw [show recordTrusteeKeys t ((a, b) :: keys) = recordTrusteeKeys
      (t.set a.toNat ⟨a, true, some b, some b⟩) keys from rfl,
      ih hnd.2 (by simpa using fun k hk' => hk k (List.mem_cons_of_mem _ hk'))]
    by_cases hia : (i : Int) = a
    · subst hia
      have hnone : keys.lookup (i : Int) = none := by
        simp only [List.lookup_eq_none_iff, bne_iff_ne, ne_eq]
        exact fun p hp hip => hnd.1 ⟨p, hp, hip ▸ rfl⟩
      have hi : i < t.length := by omega
      simp [hnone, List.getD_eq_getElem?_getD, hi]
    · have hi : a.toNat ≠ i := by omega
      simp [List.lookup_cons, beq_false_of_ne hia, List.getD_eq_getElem?_getD, List.getElem?_set_ne hi]

/-- Keys of trustees that leave the count below `nTrustees`: the relay
records each and waits, sending nothing. -/
theorem run_tellPks_waiting {keys : List (Int × Bytes)} (hst : s.state = .collectingTrusteesPks)
    (hk : ∀ k ∈ keys, 0 ≤ k.1 ∧ k.1 < s.trustees.length)
    (hc : s.nTrusteesPkCollected + keys.length < s.nTrustees) :
    run env s (keys.map fun k => .truRelTellPk k.1 (some k.2)) = .ok { s with
      trustees := recordTrusteeKeys s.trustees keys
      nTrusteesPkCollected := s.nTrusteesPkCollected + keys.length } := by
  induction keys generalizing s with
  | nil => simp [run, recordTrusteeKeys]
  | cons k keys ih =>
    simp only [List.length_cons] at hc
    let s₁ : RelayState σ := { s with
      trustees := s.trustees.set k.1.toNat ⟨k.1, true, some k.2, some k.2⟩
      nTrusteesPkCollected := s.nTrusteesPkCollected + 1 }
    have hm : s.receivedMessage env (.truRelTellPk k.1 (some k.2)) = .ok (s₁, none) := by
      rw [receivedMessage, if_pos (by simp [RelayInput.handledIn, hst])]
      exact receivedTruRelTellPk_counting (hk k (List.mem_cons_self _ _)) (by omega)
    rw [List.map_cons, run, hm]
    refine (ih (s := s₁) hst (fun k' hk' => by simpa [s₁] using hk k' (List.mem_cons_of_mem _ hk'))
      (by show s.nTrusteesPkCollected + 1 + _ < s.nTrustees; omega)).trans ?_
    simp only [s₁, recordTrusteeKeys, List.foldl_cons, List.length_cons, Except.ok.injEq]
    congr 1
    omega

/-! ## Trustee ids `0 … n-1` -/

section Ids

variable {keys : List (Int × Bytes)} {n : Nat}

theorem ids_nodup (hids : (keys.map Prod.fst).Perm ((List.range n).map fun (i : Nat) => (i : Int))) :
    (keys.map Prod.fst).Nodup :=
  hids.nodup_iff.mpr (List.Pairwise.map _ (fun _ _ h e => h (Int.ofNat_inj.mp e)) (List.nodup_range _))

theorem ids_mem_range (hids : (keys.map Prod.fst).Perm ((List.range n).map fun (i : Nat) => (i : Int)))
    {k : Int × Bytes} (hk : k ∈ keys) : 0 ≤ k.1 ∧ k.1 < n := by
  obtain ⟨i, hi, hik⟩ := List.mem_map.mp (hids.subset (List.mem_map_of_mem Prod.fst hk))
  rw [List.mem_range] at hi
  omega

theorem ids_lookup (hids : (keys.map Prod.fst).Perm ((List.range n).map fun (i : Nat) => (i : Int)))
    {i : Nat} (hi : i < n) : ∃ b, keys.lookup (i : Int) = some b := by
  obtain ⟨p, hp, hpi⟩ := List.mem_map.mp
    (hids.symm.subset (List.mem_map_of_mem (fun (i : Nat) => (i : Int)) (List.mem_range.mpr hi)))
  exact Option.isSome_iff_exists.mp (List.lookup_isSome_iff.mpr ⟨p, hp, by simp [hpi]⟩)

/-- With every id once, the table's keys are the keys sent, by id. -/
theorem map_publicKey_recordTrusteeKeys {t : List NodeRepresentation} (hlen : t.length = n)
    (hids : (keys.map Prod.fst).Perm ((List.range n).map fun (i : Nat) => (i : Int))) :
    (recordTrusteeKeys t keys).map (·.publicKey) =
      (List.range n).map fun (i : Nat) => keys.lookup (i : Int) := by
  refine List.ext_getElem (by simp [length_recordTrusteeKeys, hlen]) fun i _ h₂ => ?_
  simp only [List.length_map, List.length_range] at h₂
  obtain ⟨b, hb⟩ := ids_lookup hids h₂
  have hi := recordTrusteeKeys_publicKey (t := t) (ids_nodup hids)
    (fun k hk => by have := ids_mem_range hids hk; omega) i
  rw [hb, List.getD_eq_getElem _ _ (by simpa [length_recordTrusteeKeys, hlen] using h₂)] at hi
  simp [hi, hb]

/-- With every id once, no id is without a key. -/
theorem none_not_mem_lookup
    (hids : (keys.map Prod.fst).Perm ((List.range n).map fun (i : Nat) => (i : Int))) :
    none ∉ (List.range n).map fun (i : Nat) => keys.lookup (i : Int) := by
  simp only [List.mem_map, List.mem_range, not_exists, not_and]
  intro i hi h
  obtain ⟨b, hb⟩ := ids_lookup hids hi
  rw [hb] at h
  cases h

end Ids

/-- **Distinct trustee ids**: after the parameters, if trustees `0 … n-1`
each tell their key once, in any order, the relay waits, sending nothing,
until the last one, and then sends every client the parameters with each
trustee's key at its id; no key is `nil`. -/
theorem tellPks_distinct_ids (hst : s.state = .collectingTrusteesPks)
    (hc : s.nTrusteesPkCollected = 0) (hlen : s.trustees.length = s.nTrustees.toNat)
    (hn : 0 < s.nTrustees) {keys : List (Int × Bytes)}
    (hids : (keys.map Prod.fst).Perm ((List.range s.nTrustees.toNat).map fun (i : Nat) => (i : Int))) :
    (∀ k < keys.length, ∃ s', run env s ((keys.take k).map fun k => .truRelTellPk k.1 (some k.2)) =
        .ok s' ∧ s'.state = .collectingTrusteesPks ∧ s'.sent = s.sent) ∧
    ∃ (s' : RelayState σ) (m : AllAllParameters),
      run env s (keys.map fun k => .truRelTellPk k.1 (some k.2)) = .ok s' ∧
      s'.state = .collectingClientPks ∧
      s'.sent = s.sent ++ (List.range s.nClients.toNat).map (fun (j : Nat) =>
        (.client j, .allAllParameters (m.add "NextFreeClientID" (.int j)))) ∧
      m.trusteesPks = (List.range s.nTrustees.toNat).map (fun (i : Nat) => keys.lookup (i : Int)) ∧
      none ∉ m.trusteesPks := by
  have hlenk : keys.length = s.nTrustees.toNat := by simpa using hids.length_eq
  have hrange : ∀ k ∈ keys, 0 ≤ k.1 ∧ k.1 < s.trustees.length := fun k hk => by
    have := ids_mem_range hids hk; omega
  -- every key but the last is recorded, and the relay waits
  refine ⟨fun k hk => ⟨_, run_tellPks_waiting env hst
    (fun p hp => hrange p (List.mem_of_mem_take hp)) (by simp only [List.length_take, hc]; omega),
    hst, rfl⟩, ?_⟩
  obtain ⟨init, last, rfl⟩ : ∃ init last, keys = init ++ [last] :=
    ⟨_, _, (List.dropLast_append_getLast (List.ne_nil_of_length_pos (by omega))).symm⟩
  simp only [List.length_append, List.length_singleton] at hlenk
  let s₁ : RelayState σ := { s with
    trustees := recordTrusteeKeys s.trustees init
    nTrusteesPkCollected := s.nTrusteesPkCollected + init.length }
  -- the last key sends the parameters
  obtain ⟨s', hlast, hst', -, hsent⟩ := receivedTruRelTellPk_last (s := s₁) last.1 (some last.2)
    (by simpa [s₁, length_recordTrusteeKeys] using hrange last (by simp))
    (by show s.nTrusteesPkCollected + (init.length : Int) + 1 = s.nTrustees; omega)
    (by simp [s₁, length_recordTrusteeKeys, hlen])
  have hm : s₁.receivedMessage env (.truRelTellPk last.1 (some last.2)) = .ok (s', none) := by
    rw [receivedMessage, if_pos (by simp [RelayInput.handledIn, s₁, hst])]
    exact hlast
  refine ⟨s', _, ?_, hst', hsent, ?_⟩
  · rw [List.map_append, run_append, run_tellPks_waiting env hst
      (fun p hp => hrange p (by simp [hp])) (by simp only [hc]; omega)]
    show run env s₁ [.truRelTellPk last.1 (some last.2)] = .ok s'
    rw [run, hm]
    rfl
  -- with the keys of the whole table
  have hrec : recordTrusteeKeys s.trustees (init ++ [last]) =
      (recordTrusteeKeys s.trustees init).set last.1.toNat ⟨last.1, true, some last.2, some last.2⟩ := by
    simp [recordTrusteeKeys, List.foldl_append]
  have htab := map_publicKey_recordTrusteeKeys hlen hids
  rw [hrec] at htab
  exact ⟨htab, htab ▸ none_not_mem_lookup hids⟩

/-! ## A run on small inputs -/

/-- The parameters of a session of two trustees and one client. -/
def twoTrusteesParameters : AllAllParameters :=
  ⟨false, [("StartNow", .bool true), ("NTrustees", .int 2), ("NClients", .int 1),
    ("PayloadSize", .int 1)], []⟩

/-- Trustee 1's key `[5]`, then trustee 0's key `[6]`. -/
def twoTrusteeKeys : List (Int × Bytes) := [(1, [5]), (0, [6])]

/-- Trustees 1 then 0 tell their keys to a relay that waits for two: it
sends the client the keys `[[6], [5]]`. -/
theorem tellPks_distinct_ids_two_trustees : ∃ s : RelayState Unit,
    run RelayEnv.acceptAll (init ()) [.allAllParameters twoTrusteesParameters] = .ok s ∧
    s.state = .collectingTrusteesPks ∧ s.nTrusteesPkCollected = 0 ∧
    s.trustees.length = s.nTrustees.toNat ∧ 0 < s.nTrustees ∧
    (twoTrusteeKeys.map Prod.fst).Perm ((List.range s.nTrustees.toNat).map fun (i : Nat) => (i : Int)) ∧
    (∀ k < twoTrusteeKeys.length, ∃ s', run RelayEnv.acceptAll s ((twoTrusteeKeys.take k).map
        fun k => .truRelTellPk k.1 (some k.2)) = .ok s' ∧
        s'.state = .collectingTrusteesPks ∧ s'.sent = s.sent) ∧
    ∃ (s' : RelayState Unit) (m : AllAllParameters),
      run RelayEnv.acceptAll s (twoTrusteeKeys.map fun k => .truRelTellPk k.1 (some k.2)) = .ok s' ∧
      s'.state = .collectingClientPks ∧
      s'.sent = s.sent ++ (List.range s.nClients.toNat).map (fun (j : Nat) =>
        (.client j, .allAllParameters (m.add "NextFreeClientID" (.int j)))) ∧
      m.trusteesPks = (List.range s.nTrustees.toNat).map
        (fun (i : Nat) => twoTrusteeKeys.lookup (i : Int)) ∧
      none ∉ m.trusteesPks := by
  refine ⟨_, rfl, ?_⟩
  have hperm : (twoTrusteeKeys.map Prod.fst).Perm ((List.range 2).map fun (i : Nat) => (i : Int)) :=
    List.Perm.swap _ _ _
  exact ⟨rfl, rfl, rfl, by decide, hperm,
    tellPks_distinct_ids RelayEnv.acceptAll (by rfl) (by rfl) (by rfl) (by decide) hperm⟩

end RelayState

end Prifi
