import Curfew.Main
import Curfew.Mode.Setting
import Curfew.Proofs.Audit.Querying
import Curfew.Proofs.Audit.Rejected
import Curfew.Proofs.Audit.Shared
import Curfew.Proofs.CommandLine.Reporting
import Curfew.Proofs.Config.Accounting
import Curfew.Proofs.Config.NumericName
import Curfew.Proofs.Host.Patterns
import Curfew.Proofs.Mode.Bits
import Curfew.Proofs.Mode.Meaning
import Curfew.Proofs.Mode.Numbers
import Curfew.Proofs.Time.Offsets
import Curfew.Proofs.Tree.Absent
import Curfew.Proofs.Tree.Confinement
import Curfew.Proofs.Tree.Construction
import Curfew.Proofs.Tree.Coverage
import Curfew.Proofs.Tree.Deadline
import Curfew.Proofs.Tree.Declaring
import Curfew.Proofs.Tree.Exclusion
import Curfew.Proofs.Tree.Fold
import Curfew.Proofs.Tree.Interrupted
import Curfew.Proofs.Tree.KeyOrder
import Curfew.Proofs.Tree.LinkedRoot
import Curfew.Proofs.Tree.Lockdown
import Curfew.Proofs.Tree.Precedence
import Curfew.Proofs.Tree.Reapply
import Curfew.Proofs.Tree.Reuse
import Curfew.Proofs.Tree.Separation
import Curfew.Proofs.Tree.Settlement
import Curfew.Proofs.Tree.Zone
