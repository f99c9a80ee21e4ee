import TypeGraph.Main
import TypeGraph.Proofs.Classification.Exploration
import TypeGraph.Proofs.Classification.Worklists
import TypeGraph.Proofs.Command.Invocations
import TypeGraph.Proofs.Command.Writing
import TypeGraph.Proofs.Configuration.Setup
import TypeGraph.Proofs.Configuration.Spelling
import TypeGraph.Proofs.Conversion.Bodies
import TypeGraph.Proofs.Conversion.JoinedPaths
import TypeGraph.Proofs.Conversion.Lasting
import TypeGraph.Proofs.Conversion.Moves
import TypeGraph.Proofs.Conversion.Numbers
import TypeGraph.Proofs.Conversion.Ownership
import TypeGraph.Proofs.Conversion.Progress
import TypeGraph.Proofs.Conversion.Representation
import TypeGraph.Proofs.Discovery.Manifests
import TypeGraph.Proofs.Discovery.Packages
import TypeGraph.Proofs.Discovery.Partition
import TypeGraph.Proofs.Discovery.Traversal
import TypeGraph.Proofs.Filter.Spelling
import TypeGraph.Proofs.Json.Records
import TypeGraph.Proofs.Printed.Bindings
import TypeGraph.Proofs.Printed.Comments
import TypeGraph.Proofs.Printed.Emission
import TypeGraph.Proofs.Printed.ImportText
import TypeGraph.Proofs.Printed.Imports
import TypeGraph.Proofs.Printed.Keys
import TypeGraph.Proofs.Printed.Links
import TypeGraph.Proofs.Printed.NamedTypes
import TypeGraph.Proofs.Printed.Parameters
import TypeGraph.Proofs.Printed.Parts
import TypeGraph.Proofs.Printed.Places
import TypeGraph.Proofs.Printed.Scopes
import TypeGraph.Proofs.Run.Complete
import TypeGraph.Proofs.Run.Determinism
import TypeGraph.Proofs.Run.Failures
import TypeGraph.Proofs.Run.Generics
import TypeGraph.Proofs.Run.Growth
import TypeGraph.Proofs.Run.Ledger
import TypeGraph.Proofs.Run.Locality
import TypeGraph.Proofs.Run.Models
import TypeGraph.Proofs.Run.Operations
import TypeGraph.Proofs.Run.Precedence
import TypeGraph.Proofs.Run.Report
import TypeGraph.Proofs.Run.Resolution
import TypeGraph.Proofs.Run.Roles
import TypeGraph.Proofs.Run.Selection
import TypeGraph.Proofs.Run.Surfaces
import TypeGraph.Proofs.Source.Spelling
import TypeGraph.Proofs.Target.Arena
import TypeGraph.Proofs.Target.Assigner
import TypeGraph.Proofs.Target.FreshNames
import TypeGraph.Proofs.Target.LinkedTree
import TypeGraph.Proofs.Target.Modules
import TypeGraph.Proofs.Target.Parts
import TypeGraph.Proofs.Target.Paths
import TypeGraph.Proofs.Target.Specifiers
import TypeGraph.Proofs.Target.Table
import TypeGraph.Proofs.Target.Walk
import TypeGraph.Proofs.Target.Ways
import TypeGraph.Proofs.Text.Segments
