import TowerOfHanoi.Text.Class
import TowerOfHanoi.Text.Decimal
import TowerOfHanoi.Text.Escape
import TowerOfHanoi.Error
import TowerOfHanoi.Peg
import TowerOfHanoi.Puzzle
import TowerOfHanoi.Choice
import TowerOfHanoi.Validation
import TowerOfHanoi.Move
import TowerOfHanoi.Solution
import TowerOfHanoi.Cursor
import TowerOfHanoi.Board
import TowerOfHanoi.Sink
import TowerOfHanoi.Solver
import TowerOfHanoi.Engine
import TowerOfHanoi.Json.Literal
import TowerOfHanoi.Output.Store
import TowerOfHanoi.Output.Channel
import TowerOfHanoi.Output.Printer
import TowerOfHanoi.Output.JsonLines
import TowerOfHanoi.Output.Csv
import TowerOfHanoi.Verify
import TowerOfHanoi.Output.Outlet
import TowerOfHanoi.Text.Binary64
import TowerOfHanoi.Json.Scan
import TowerOfHanoi.Json.ReadMove
import TowerOfHanoi.Toml.Value
import TowerOfHanoi.Toml.Scalar
import TowerOfHanoi.Toml.Quoted
import TowerOfHanoi.Toml.Document
import TowerOfHanoi.Environment
import TowerOfHanoi.ConfigFile
import TowerOfHanoi.Settings
import TowerOfHanoi.Files
import TowerOfHanoi.Arguments
import TowerOfHanoi.Text.Printable
import TowerOfHanoi.Text.Duration
import TowerOfHanoi.Output.Writer
import TowerOfHanoi.Log.Filter
import TowerOfHanoi.Log.Event
import TowerOfHanoi.Log.Logger
import TowerOfHanoi.Help
import TowerOfHanoi.Program
import TowerOfHanoi.Main
import TowerOfHanoi.Proofs.Emission
import TowerOfHanoi.Proofs.Play
import TowerOfHanoi.Proofs.Transfer
import TowerOfHanoi.Proofs.Optimal
import TowerOfHanoi.Proofs.Stream
import TowerOfHanoi.Proofs.Encoding
import TowerOfHanoi.Proofs.Delivery
import TowerOfHanoi.Proofs.Attempt
import TowerOfHanoi.Proofs.Refusal
import TowerOfHanoi.Proofs.Verification
import TowerOfHanoi.Proofs.Noninterference
import TowerOfHanoi.Proofs.Layers
import TowerOfHanoi.Proofs.JsonLines
import TowerOfHanoi.Proofs.Iteration
import TowerOfHanoi.Proofs.Protocol
import TowerOfHanoi.Proofs.Forwarding
import TowerOfHanoi.Proofs.ClosedForm
import TowerOfHanoi.Proofs.Mismatch
import TowerOfHanoi.Proofs.Conservation
import TowerOfHanoi.Proofs.CsvRecords
import TowerOfHanoi.Proofs.Lines
import TowerOfHanoi.Proofs.Overlay
import TowerOfHanoi.Proofs.Substitution
import TowerOfHanoi.Proofs.Repetition
import TowerOfHanoi.Proofs.Legality
import TowerOfHanoi.Proofs.Reachability
import TowerOfHanoi.Proofs.Counts
import TowerOfHanoi.Proofs.Precedence
import TowerOfHanoi.Proofs.Printing
import TowerOfHanoi.Proofs.Relabelling
import TowerOfHanoi.Proofs.EntryPaths
import TowerOfHanoi.Proofs.SubTower
import TowerOfHanoi.Proofs.StackBounds
import TowerOfHanoi.Proofs.Streaming
