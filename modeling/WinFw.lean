import WinFw.Model.Guids
import WinFw.Model.Types
import WinFw.Model.Session
import WinFw.Model.Rules
import WinFw.Model.FwContext
import WinFw.Model.Api
import WinFw.Proofs.Pool
import WinFw.Proofs.PermitRules
import WinFw.Proofs.Compose
import WinFw.Soundness.Installed
import WinFw.Soundness.Api
import WinFw.Soundness.Progress
import WinFw.Soundness.Outcome
import WinFw.Soundness.PooledKeys
