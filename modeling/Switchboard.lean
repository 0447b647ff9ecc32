import Switchboard.Main
import Switchboard.Proofs.Cache.Interleaving
import Switchboard.Proofs.Config.Layering
import Switchboard.Proofs.Service.Agreement
import Switchboard.Proofs.Service.Batch
import Switchboard.Proofs.Service.Containment
import Switchboard.Proofs.Service.EndOfCall
import Switchboard.Proofs.Service.Eviction
import Switchboard.Proofs.Service.FanOut
import Switchboard.Proofs.Service.Feedback
import Switchboard.Proofs.Service.Hiding
import Switchboard.Proofs.Service.Isolation
import Switchboard.Proofs.Service.Lockout
import Switchboard.Proofs.Service.Lookups
import Switchboard.Proofs.Service.Mutation
import Switchboard.Proofs.Service.PurgeLoop
import Switchboard.Proofs.Service.Purges
import Switchboard.Proofs.Service.Rejection
import Switchboard.Proofs.Service.Responses
import Switchboard.Proofs.Service.Routing
import Switchboard.Proofs.Service.Secret
import Switchboard.Proofs.Service.Snapshots
import Switchboard.Proofs.Service.Stamping
import Switchboard.Proofs.Tool.Access
import Switchboard.Proofs.Tool.DraftFaults
