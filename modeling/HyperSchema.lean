import HyperSchema.Main
import HyperSchema.Schema.Printer
import HyperSchema.Proofs.Prototype.Bases
import HyperSchema.Proofs.Prototype.WellFormed
import HyperSchema.Proofs.Prototype.MostDerived
import HyperSchema.Proofs.Registry.Transparent
import HyperSchema.Proofs.Prototype.FirstWins
import HyperSchema.Proofs.Prototype.Indexes
import HyperSchema.Proofs.Prototype.Keys
import HyperSchema.Proofs.Lineage.Local
import HyperSchema.Proofs.Prototype.Local
import HyperSchema.Proofs.Prototype.Table
import HyperSchema.Proofs.Prototype.Names
import HyperSchema.Proofs.Model.Writes
import HyperSchema.Proofs.Registry.Reached
import HyperSchema.Proofs.Registry.Search
import HyperSchema.Proofs.Registry.Bindings
import HyperSchema.Proofs.Prototype.Respelled
import HyperSchema.Proofs.Registry.Aliases
import HyperSchema.Proofs.Registry.Growth
import HyperSchema.Proofs.Registry.Limit
import HyperSchema.Proofs.Coercion.RoundTrip
import HyperSchema.Proofs.Value.Equality
import HyperSchema.Proofs.Hints
import HyperSchema.Proofs.Prototype.Inherited
import HyperSchema.Proofs.Registry.Separation
import HyperSchema.Proofs.Report
import HyperSchema.Proofs.Prototype.Cycles
import HyperSchema.Proofs.Slot.Validation
import HyperSchema.Proofs.Registry.Existence
import HyperSchema.Proofs.Registry.Projection
import HyperSchema.Proofs.Prototype.Enumeration
import HyperSchema.Proofs.ValueSource.Path
import HyperSchema.Proofs.Coercion.Conformity
import HyperSchema.Proofs.Coercion.Dates
import HyperSchema.Proofs.ValueType.Respelling
