import ObjectModel.Class.Bootstrap
import ObjectModel.Class.Core
import ObjectModel.Class.Eigenclass
import ObjectModel.Class.Hierarchy
import ObjectModel.Class.Lookup
import ObjectModel.Diagnostics
import ObjectModel.Expr
import ObjectModel.Expr.Render
import ObjectModel.Fault
import ObjectModel.Host.Body
import ObjectModel.Host.Prelude
import ObjectModel.Host.StandIn
import ObjectModel.Method
import ObjectModel.Run.Action
import ObjectModel.Run.Evaluator
import ObjectModel.Run.Kernel
import ObjectModel.Run.Machine
import ObjectModel.Run.Outcome
import ObjectModel.Scope
import ObjectModel.Scope.Function
import ObjectModel.Store
import ObjectModel.Store.Cells
import ObjectModel.Store.NameTable
import ObjectModel.Tag
import ObjectModel.Text.CodePoint
import ObjectModel.Text.Extending
import ObjectModel.Text.Quoted
import ObjectModel.Text.Unprintable
import ObjectModel.Value
import ObjectModel.Value.Equality
import ObjectModel.Value.Inspect
import ObjectModel.Value.Path
import ObjectModel.Proofs.Held
import ObjectModel.Proofs.Lineage
import ObjectModel.Proofs.Growth
import ObjectModel.Proofs.Step
import ObjectModel.Proofs.Sound
import ObjectModel.Proofs.Discipline
import ObjectModel.Proofs.Evaluation
import ObjectModel.Proofs.Stock
import ObjectModel.Proofs.Reachable
import ObjectModel.Proofs.Resolution
import ObjectModel.Proofs.Appearance
import ObjectModel.Proofs.Definition
import ObjectModel.Proofs.Isolation
import ObjectModel.Proofs.Frame
import ObjectModel.Proofs.Transience
import ObjectModel.Proofs.Bisimulation
import ObjectModel.Proofs.Ownership
import ObjectModel.Proofs.Instances
import ObjectModel.Proofs.Course
import ObjectModel.Proofs.Failure
import ObjectModel.Proofs.Metaclass
import ObjectModel.Proofs.Persistence
import ObjectModel.Proofs.Locals
import ObjectModel.Proofs.Graph
import ObjectModel.Proofs.Confinement
import ObjectModel.Proofs.Descent
import ObjectModel.Proofs.Legibility
import ObjectModel.Proofs.Rendering
import ObjectModel.Proofs.Transparency
import ObjectModel.Proofs.Visibility
import ObjectModel.Proofs.Conversion
import ObjectModel.Proofs.Inheritance
import ObjectModel.Proofs.Boundaries
import ObjectModel.Proofs.Receivers
import ObjectModel.Proofs.Allocation
import ObjectModel.Proofs.Invocation
import ObjectModel.Proofs.Construction
import ObjectModel.Proofs.Entry
import ObjectModel.Proofs.Literals
import ObjectModel.Proofs.Parameters
import ObjectModel.Proofs.Tables
import ObjectModel.Proofs.Refusal
