import Brokerage.CommandLine
import Brokerage.Main
import Brokerage.Settings
import Brokerage.Timeline
import Brokerage.Proofs.Abandonment
import Brokerage.Proofs.Addressing
import Brokerage.Proofs.Archive
import Brokerage.Proofs.Attachments
import Brokerage.Proofs.Claiming
import Brokerage.Proofs.Counting
import Brokerage.Proofs.Gathering
import Brokerage.Proofs.Interchange
import Brokerage.Proofs.Interfaces
import Brokerage.Proofs.JointPaging
import Brokerage.Proofs.Metering
import Brokerage.Proofs.OneToOne
import Brokerage.Proofs.Ownership
import Brokerage.Proofs.QueryPairs
import Brokerage.Proofs.Refinement
import Brokerage.Proofs.Register
import Brokerage.Proofs.Retry
import Brokerage.Proofs.Revision
import Brokerage.Proofs.RouterFormat
import Brokerage.Proofs.Seeding
import Brokerage.Proofs.Selection
import Brokerage.Proofs.Siting
import Brokerage.Proofs.SortOrder
import Brokerage.Proofs.Translation
import Brokerage.Proofs.Withdrawal
