import Wiring.Application
import Wiring.Blueprint
import Wiring.Candidate
import Wiring.Component
import Wiring.Condition
import Wiring.Decimal.Binary
import Wiring.Decimal.Positional
import Wiring.Decimal.Reader
import Wiring.Decimal.Shortest
import Wiring.Event
import Wiring.Facts
import Wiring.Fault
import Wiring.Files
import Wiring.Hierarchy
import Wiring.Hierarchy.Memo
import Wiring.Hints
import Wiring.Hints.Sorting
import Wiring.Json
import Wiring.Log
import Wiring.Manifest
import Wiring.Manifest.Reader
import Wiring.Names
import Wiring.Outcome
import Wiring.Proofs.Alike
import Wiring.Proofs.BeanSearch
import Wiring.Proofs.Before
import Wiring.Proofs.Hierarchy.Pool
import Wiring.Proofs.Hierarchy.Reachability
import Wiring.Proofs.Hints.Circle
import Wiring.Proofs.Hints.Order
import Wiring.Proofs.Hints.Registered
import Wiring.Proofs.Hints.Settled
import Wiring.Proofs.Manifest
import Wiring.Proofs.Override
import Wiring.Proofs.Precedence
import Wiring.Proofs.ProfilePath
import Wiring.Proofs.Property.Layers
import Wiring.Proofs.Property.Leaves
import Wiring.Proofs.Ranking
import Wiring.Proofs.Registry.Indexed
import Wiring.Proofs.Registry.Listing
import Wiring.Proofs.Report.Account
import Wiring.Proofs.Report.Modes
import Wiring.Proofs.Report.Sections
import Wiring.Proofs.Results
import Wiring.Proofs.Run.Account
import Wiring.Proofs.Run.Agreement
import Wiring.Proofs.Run.Defects
import Wiring.Proofs.Run.Extension
import Wiring.Proofs.Run.Footprint
import Wiring.Proofs.Run.Growth
import Wiring.Proofs.Run.Hinted
import Wiring.Proofs.Run.Interference
import Wiring.Proofs.Run.Latch
import Wiring.Proofs.Run.Locality
import Wiring.Proofs.Run.Steps
import Wiring.Proofs.Run.Stream
import Wiring.Proofs.Text.Items
import Wiring.Property.Environment
import Wiring.Property.Environments
import Wiring.Property.Leaves
import Wiring.Property.Source
import Wiring.Property.Value
import Wiring.Property.Variables
import Wiring.Ranking
import Wiring.Registry
import Wiring.Registry.Indexed
import Wiring.Report
import Wiring.Run
import Wiring.Settings
import Wiring.Text.Alphanumeric
import Wiring.Text.Blank
import Wiring.Text.Case
import Wiring.Text.Inspect
import Wiring.Text.Items
import Wiring.Text.Printable
import Wiring.Text.Ranges
import Wiring.Toml.Datetime
import Wiring.Toml.Document
import Wiring.Toml.Expression
import Wiring.Toml.Numbers
import Wiring.Toml.Scan
import Wiring.Toml.Strings
import Wiring.Toml.Tree
import Wiring.Toml.Value
import Wiring.Trace
import Wiring.TypeName
import Wiring.Outcome.Indexed
import Wiring.Proofs.Json
import Wiring.Proofs.Outcome.Indexed
import Wiring.Proofs.Report.Printed
import Wiring.Proofs.TypeName
import Wiring.Proofs.Registry.Submissions
