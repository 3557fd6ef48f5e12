import Prifi.Relay.Machine

/-!
# The PCAP meta-message reads

`upstreamPhase2b_extractPayload` (`relay.go:455`) reads a decoded cell that
starts with the pattern `0x5555` as a chain of PCAP meta-messages, one every
17 bytes. Each one reads its header `[pos:pos+16]` and then the byte
`[pos+17]`, but the bounds it checks are those of the header: three slices of
the first one against the capacity, and `pos+17 <= len` in the loop. A
meta-message that ends exactly at the end of the cell has its byte `[pos+17]`
one past the end.

- `pcapLoop_error_iff`: the loop from `pos` panics exactly when the cell
  ends 17 bytes after one of a run of `0x5555` headers at `pos`, `pos+17`, …;
- **`deliverPayload_panics_iff`**: the cells that crash the relay are those
  of 2 to 17 bytes that start with `0x5555`, and those whose length is a
  multiple of 17 with `0x5555` at every multiple of 17 below it;
- `disruptionCheck_ok`: the disruption block's reads (`b_echo_last`, a
  `BLAME` request) are in bounds for every cell that is not empty;
- `pcap_reads_past_end`: relays set up with `PayloadSize` 17 and 34 panic on
  such cells.
-/

namespace Prifi

/-- The PCAP pattern `0x5555` at byte `pos`, as the loop tests it. -/
def pcapHeaderAt (p : Bytes) (pos : Nat) : Bool := bigEndian ((p.drop pos).take 2) == 21845

namespace RelayState

variable {σ : Type} (env : RelayEnv σ)

/-! ## The loop and the first meta-message -/

/-- The loop from `pos`, given the fuel of the cell's length, panics exactly
when a run of headers at `pos`, `pos+17`, …, `pos+17k` ends the cell. -/
theorem pcapLoop_error_iff {p : Bytes} {fuel pos : Nat} (hf : p.length ≤ pos + 17 * fuel) :
    (∃ e, pcapLoop p fuel pos = .error e) ↔
      ∃ k, pos + 17 * (k + 1) = p.length ∧ ∀ j ≤ k, pcapHeaderAt p (pos + 17 * j) := by
  induction fuel generalizing pos with
  | zero =>
    simp only [pcapLoop, reduceCtorEq, exists_false, false_iff, not_exists, not_and]
    intro k hk; omega
  | succ fuel ih =>
    have hpos : ∀ {j}, pcapHeaderAt p (pos + 17 * (j + 1)) = pcapHeaderAt p (pos + 17 + 17 * j) :=
      fun {j} => by rw [Nat.mul_succ, Nat.add_comm (17 * j), ← Nat.add_assoc]
    by_cases hc : pos + 17 ≤ p.length ∧ bigEndian ((p.drop pos).take 2) = 21845
    · have h0 : pcapHeaderAt p pos := by simpa [pcapHeaderAt] using hc.2
      rcases Nat.lt_or_eq_of_le hc.1 with hlt | heq
      · simp only [pcapLoop, if_pos hc, sliceIndex_of_lt hlt, bind, Except.bind]
        rw [ih (by omega)]
        constructor
        · rintro ⟨k, hk, hh⟩
          refine ⟨k + 1, by omega, fun j hj => ?_⟩
          cases j with
          | zero => simpa using h0
          | succ j => rw [hpos]; exact hh j (by omega)
        · rintro ⟨k, hk, hh⟩
          cases k with
          | zero => omega
          | succ k => exact ⟨k, by omega, fun j hj => hpos ▸ hh (j + 1) (by omega)⟩
      · simp only [pcapLoop, if_pos hc, sliceIndex_of_le heq.ge, bind, Except.bind]
        exact iff_of_true ⟨_, rfl⟩ ⟨0, by omega, fun j hj => by simpa [Nat.le_zero.mp hj] using h0⟩
    · simp only [pcapLoop, if_neg hc, reduceCtorEq, exists_false, false_iff, not_exists, not_and]
      intro k hk hh
      exact hc ⟨by omega, by simpa [pcapHeaderAt] using hh 0 (Nat.zero_le _)⟩

/-- The reads of a PCAP cell panic when it has at most 17 bytes, or when its
length is a multiple of 17 and its headers at 17, 34, … below it are
`0x5555`. -/
theorem pcapMetaMessages_error_iff (p : Bytes) :
    (∃ e, pcapMetaMessages p = .error e) ↔
      p.length ≤ 17 ∨ 17 ∣ p.length ∧ ∀ j, 0 < j → 17 * j < p.length → pcapHeaderAt p (17 * j) := by
  by_cases h16 : p.length < 16
  · refine iff_of_true ?_ (.inl (by omega))
    simp only [pcapMetaMessages, h16, if_true]
    split <;> [exact ⟨_, rfl⟩; split <;> exact ⟨_, rfl⟩]
  have h4 : ¬p.length < 4 := by omega
  have h8 : ¬p.length < 8 := by omega
  by_cases h17 : p.length ≤ 17
  · refine iff_of_true ?_ (.inl h17)
    simp only [pcapMetaMessages, h4, h8, h16, if_false, sliceIndex_of_le h17]
    exact ⟨_, rfl⟩
  · simp only [pcapMetaMessages, h4, h8, h16, if_false, sliceIndex_of_lt (not_le.mp h17), bind,
      Except.bind, pure, Except.pure, h17, false_or]
    rw [pcapLoop_error_iff (by omega)]
    constructor
    · rintro ⟨k, hk, hh⟩
      refine ⟨⟨k + 2, by omega⟩, fun j hj hlt => ?_⟩
      obtain ⟨i, rfl⟩ : ∃ i, j = i + 1 := ⟨j - 1, by omega⟩
      rw [show 17 * (i + 1) = 17 + 17 * i by omega]
      exact hh i (by omega)
    · rintro ⟨⟨m, hm⟩, hh⟩
      refine ⟨m - 2, by omega, fun j hj => ?_⟩
      rw [show 17 + 17 * j = 17 * (j + 1) by omega]
      exact hh (j + 1) (by omega) (by omega)

/-! ## The decoded cell -/

variable (s : RelayState σ)

/-- **The cells that crash the relay**: of 2 to 17 bytes and starting with
`0x5555`, or of a multiple of 17 bytes with `0x5555` at every multiple of 17
below it. The rest of `deliverPayload` does not panic. -/
theorem deliverPayload_panics_iff (p : Bytes) :
    (∃ e, s.deliverPayload p = .error e) ↔
      2 ≤ p.length ∧ pcapHeaderAt p 0 ∧
        (p.length ≤ 17 ∨ 17 ∣ p.length ∧ ∀ j, 0 < j → 17 * j < p.length → pcapHeaderAt p (17 * j)) := by
  have hpat : ((if 2 ≤ p.length then some (bigEndian (p.take 2)) else none) = some 21845) ↔
      2 ≤ p.length ∧ pcapHeaderAt p 0 := by
    split <;> simp_all [pcapHeaderAt]
  by_cases hc : 2 ≤ p.length ∧ pcapHeaderAt p 0
  · simp only [deliverPayload, bind, Except.bind]
    rw [if_pos (hpat.mpr hc)]
    simp only [hc, true_and, ← pcapMetaMessages_error_iff]
    cases pcapMetaMessages p with
    | error e => simp
    | ok u => simp only [pure, Except.pure]; split_ifs <;> simp
  · refine iff_of_false ?_ fun h => hc ⟨h.1, h.2.1⟩
    simp only [deliverPayload, bind, Except.bind]
    rw [if_neg (mt hpat.mp hc)]
    simp only [pure, Except.pure]; split_ifs <;> simp

/-- The disruption block reads `b_echo_last` at byte 0 and a `BLAME` request
only past byte 13 of a longer cell: no panic on a cell that is not empty. -/
theorem disruptionCheck_ok {roundID : Int} {p : Bytes} (hp : p ≠ []) :
    ∃ r, disruptionCheck env s roundID p = .ok r := by
  unfold disruptionCheck
  split
  · rw [sliceIndex_of_lt (List.length_pos.mpr hp)]; exact ⟨_, rfl⟩
  · exact ⟨_, rfl⟩

end RelayState

/-! ## Runs -/

/-- The setup of `setupMessages`, with the payload size given and a window
of 1. -/
def pcapSetupMessages (payloadSize : Int) : List RelayInput :=
  [.allAllParameters ⟨false, [("StartNow", .bool true), ("NTrustees", .int 1), ("NClients", .int 1),
      ("PayloadSize", .int payloadSize), ("WindowSize", .int 1)], []⟩,
    .truRelTellPk 0 (some [1]), .cliRelTellPkAndEphPk 0 (some [2]) (some [3]),
    .truRelTellNewBaseAndEphPks [] [some [3]] [] [], .truRelShuffleSig 0 []]

/-- A 17-byte PCAP meta-message: the pattern `0x5555`, then zeros. -/
def pcapCell : Bytes := 0x55 :: 0x55 :: List.replicate 15 0

namespace RelayState

/-- A relay set up with `PayloadSize` 17 decodes the cell `pcapCell` (the
trustee's cipher is zeros) and reads its byte 17; with `PayloadSize` 34 and
two meta-messages, the loop reads byte 34. -/
theorem pcap_reads_past_end :
    run RelayEnv.acceptAll (init ()) (pcapSetupMessages 17 ++
      [.cliRelUpstreamData 0 0 pcapCell, .truRelDcCipher 0 0 (List.replicate 17 0)]) =
      .error (indexOutOfRange 17 17) ∧
    run RelayEnv.acceptAll (init ()) (pcapSetupMessages 34 ++
      [.cliRelUpstreamData 0 0 (pcapCell ++ pcapCell), .truRelDcCipher 0 0 (List.replicate 34 0)]) =
      .error (indexOutOfRange 34 34) :=
  ⟨rfl, rfl⟩

end RelayState

end Prifi
