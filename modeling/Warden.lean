import Warden.Proofs.Authority.Confinement
import Warden.Proofs.Authority.Durability
import Warden.Proofs.Authority.Monitor
import Warden.Proofs.Authority.Repetition
import Warden.Proofs.Codec.Message
import Warden.Proofs.Grants.Replay
import Warden.Proofs.Grants.Revoked
import Warden.Proofs.Grants.Undo
import Warden.Proofs.Metrics
import Warden.Proofs.Node.Batch
import Warden.Proofs.Node.Login
import Warden.Proofs.Node.Membership
import Warden.Proofs.Node.Positions
import Warden.Proofs.Node.Reported
import Warden.Proofs.Node.Staleness
import Warden.Proofs.Path.Grammar
import Warden.Proofs.Path.Listed
import Warden.Proofs.Path.Shortest
import Warden.Proofs.Store.Naming
import Warden.Remote.Host
import Warden.Remote.Line
import Warden.Remote.Pool
