import HouseStyle.Config.Load
import HouseStyle.Main
import HouseStyle.Proofs.Globals
import HouseStyle.Proofs.Guides
import HouseStyle.Proofs.Conversions
import HouseStyle.Proofs.Messages
import HouseStyle.Proofs.Summaries
import HouseStyle.Proofs.Windows
import HouseStyle.Proofs.Offsets
import HouseStyle.Proofs.Orderings
import HouseStyle.Proofs.BlankLines
import HouseStyle.Proofs.Headers
import HouseStyle.Proofs.Documents
import HouseStyle.Proofs.Written
import HouseStyle.Proofs.Variables
import HouseStyle.Proofs.FileScope
import HouseStyle.Proofs.Chains
import HouseStyle.Proofs.Definitions
import HouseStyle.Proofs.Macros
import HouseStyle.Proofs.Repairs
import HouseStyle.Proofs.Tallies
import HouseStyle.Proofs.NormalForms
import HouseStyle.Proofs.BaseNames
import HouseStyle.Proofs.Ranges
import HouseStyle.Proofs.Styling
