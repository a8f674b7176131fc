import Rollout.Config.Encode
import Rollout.Main
import Rollout.Posix.Site
import Rollout.Proofs.Address
import Rollout.Proofs.Command
import Rollout.Proofs.Config.Objects
import Rollout.Proofs.Config.Places
import Rollout.Proofs.Flags
import Rollout.Proofs.Hook
import Rollout.Proofs.Http.DeployResponse
import Rollout.Proofs.Http.Diagnostic
import Rollout.Proofs.Http.Disconnect
import Rollout.Proofs.Http.Query
import Rollout.Proofs.Http.Requests
import Rollout.Proofs.Port
import Rollout.Proofs.Runner.Coherence
import Rollout.Proofs.Runner.CommandText
import Rollout.Proofs.Runner.Joining
import Rollout.Proofs.Runner.Reporting
import Rollout.Proofs.Runner.Starting
import Rollout.Proofs.Text.Quoting
import Rollout.Proofs.Text.Trimming
