import TurtleTree.Duration
import TurtleTree.Exchange.Export
import TurtleTree.Exchange.Records
import TurtleTree.Exchange.Share
import TurtleTree.Geometry.Rotation
import TurtleTree.Geometry.Shape
import TurtleTree.Geometry.Vector
import TurtleTree.Grammar.Expansion
import TurtleTree.Grammar.RuleSet
import TurtleTree.Growth.Grower
import TurtleTree.Growth.Message
import TurtleTree.Growth.Run
import TurtleTree.Json.Basic
import TurtleTree.Json.Reader
import TurtleTree.Json.Record
import TurtleTree.Json.Writer
import TurtleTree.Main
import TurtleTree.Number.Decimal
import TurtleTree.Number.Numeral
import TurtleTree.Number.ScaledWord
import TurtleTree.Number.Single
import TurtleTree.Panel.Basic
import TurtleTree.Panel.Input
import TurtleTree.Panel.Range
import TurtleTree.Parameters
import TurtleTree.Program.Arguments
import TurtleTree.Program.Help
import TurtleTree.Program.Journal
import TurtleTree.Program.Outcome
import TurtleTree.Program.Task
import TurtleTree.Proofs.Elementwise
import TurtleTree.Proofs.Exchange.Defaults
import TurtleTree.Proofs.Exchange.Faults
import TurtleTree.Proofs.Exchange.Parameters
import TurtleTree.Proofs.Exchange.Share
import TurtleTree.Proofs.Grammar.Brackets
import TurtleTree.Proofs.Grammar.Census
import TurtleTree.Proofs.Grammar.Delivery
import TurtleTree.Proofs.Grammar.Passes
import TurtleTree.Proofs.Grammar.Substitution
import TurtleTree.Proofs.Growth.Begun
import TurtleTree.Proofs.Growth.CallRounds
import TurtleTree.Proofs.Growth.Cancel
import TurtleTree.Proofs.Growth.Course
import TurtleTree.Proofs.Growth.Detection
import TurtleTree.Proofs.Growth.Driving
import TurtleTree.Proofs.Growth.EventLog
import TurtleTree.Proofs.Growth.Lockstep
import TurtleTree.Proofs.Growth.Masking
import TurtleTree.Proofs.Growth.Material
import TurtleTree.Proofs.Growth.Outline
import TurtleTree.Proofs.Growth.Output
import TurtleTree.Proofs.Growth.Pacing
import TurtleTree.Proofs.Growth.PassLimit
import TurtleTree.Proofs.Growth.Pipeline
import TurtleTree.Proofs.Growth.Polling
import TurtleTree.Proofs.Growth.Reading
import TurtleTree.Proofs.Growth.Request
import TurtleTree.Proofs.Growth.Schedule
import TurtleTree.Proofs.Growth.Splitting
import TurtleTree.Proofs.Growth.Watch
import TurtleTree.Proofs.Growth.Work
import TurtleTree.Proofs.Growth.Yield
import TurtleTree.Proofs.Json.Numbers
import TurtleTree.Proofs.Json.Records
import TurtleTree.Proofs.Json.RoundTrip
import TurtleTree.Proofs.Number.Difference
import TurtleTree.Proofs.Number.Distance
import TurtleTree.Proofs.Number.Equality
import TurtleTree.Proofs.Number.Magnitude
import TurtleTree.Proofs.Number.Order
import TurtleTree.Proofs.Number.Packing
import TurtleTree.Proofs.Number.Ranking
import TurtleTree.Proofs.Number.Sum
import TurtleTree.Proofs.Panel.Bounds
import TurtleTree.Proofs.Panel.Edits
import TurtleTree.Proofs.Panel.Publishing
import TurtleTree.Proofs.Parameters.Comparison
import TurtleTree.Proofs.Program.Headless
import TurtleTree.Proofs.Program.Palette
import TurtleTree.Proofs.Program.PassLimit
import TurtleTree.Proofs.Program.Refusal
import TurtleTree.Proofs.Program.Resolve
import TurtleTree.Proofs.Program.Sharing
import TurtleTree.Proofs.Random.Index
import TurtleTree.Proofs.Scene.Batch
import TurtleTree.Proofs.Scene.Contents
import TurtleTree.Proofs.Scene.CreationLog
import TurtleTree.Proofs.Scene.Recorder
import TurtleTree.Proofs.Scene.Rounds
import TurtleTree.Proofs.Text.Base64
import TurtleTree.Proofs.Text.Spelling
import TurtleTree.Proofs.Text.Trimming
import TurtleTree.Proofs.Turtle.Branches
import TurtleTree.Proofs.Turtle.Connected
import TurtleTree.Proofs.Turtle.Masking
import TurtleTree.Proofs.Turtle.Moves
import TurtleTree.Proofs.Turtle.Perturbation
import TurtleTree.Proofs.Turtle.Progress
import TurtleTree.Proofs.Viewer.Bounds
import TurtleTree.Proofs.Viewer.Delivery
import TurtleTree.Proofs.Viewer.Enclosure
import TurtleTree.Proofs.Viewer.Frames
import TurtleTree.Proofs.Viewer.Latching
import TurtleTree.Proofs.Viewer.StepKeys
import TurtleTree.Random.Keystream
import TurtleTree.Random.Variance
import TurtleTree.Scene.Basic
import TurtleTree.Scene.Log
import TurtleTree.Scene.Store
import TurtleTree.Settings
import TurtleTree.Text.Base64
import TurtleTree.Text.Blank
import TurtleTree.Text.Octets
import TurtleTree.Toml.Basic
import TurtleTree.Toml.Reader
import TurtleTree.Toml.Scalar
import TurtleTree.Turtle.Basic
import TurtleTree.Turtle.Interpretation
import TurtleTree.Viewer.Camera
import TurtleTree.Viewer.Drawing
import TurtleTree.Viewer.Latches
import TurtleTree.Viewer.Overlay
import TurtleTree.Viewer.Picture
import TurtleTree.Viewer.Session
import TurtleTree.Viewer.Window
