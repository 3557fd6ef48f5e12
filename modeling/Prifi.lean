import Prifi.Bytes
import Prifi.DCNet.Entity
import Prifi.DCNet.Keystream
import Prifi.DCNet.Encode
import Prifi.DCNet.RoundTrip
import Prifi.Scheduler.NeffShuffle
import Prifi.Scheduler.Transcript
import Prifi.Relay.State
import Prifi.Relay.Handlers
import Prifi.Relay.Rounds
import Prifi.Relay.Machine
import Prifi.Relay.Setup
import Prifi.Relay.Pcap
import Prifi.Relay.Delivery
import Prifi.Relay.Session
import Prifi.Relay.Startup
import Prifi.Relay.Downstream
import Prifi.Relay.Membership
import Prifi.Client.Upstream
import Prifi.Client.Streams
import Prifi.Util.PublicKeyArray
import Prifi.Trustee.Server
import Prifi.Timestamp.ProofTree
import Prifi.Timestamp.MerkleGet
