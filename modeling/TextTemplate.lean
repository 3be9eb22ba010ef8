import TextTemplate.Data.Host
import TextTemplate.Loader.Loaders
import TextTemplate.Proofs.Data.Agreement
import TextTemplate.Proofs.Escape
import TextTemplate.Proofs.Expr.Breadth
import TextTemplate.Proofs.Loader.Confinement
import TextTemplate.Proofs.Loader.Faithful
import TextTemplate.Proofs.Loader.History
import TextTemplate.Proofs.Loader.Session
import TextTemplate.Proofs.Loader.Shadowing
import TextTemplate.Proofs.Loader.Twin
import TextTemplate.Proofs.Render.Attribution
import TextTemplate.Proofs.Render.Containment
import TextTemplate.Proofs.Render.Depth
import TextTemplate.Proofs.Render.Entries
import TextTemplate.Proofs.Render.Independence
import TextTemplate.Proofs.Render.Inheritance
import TextTemplate.Proofs.Render.Loads
import TextTemplate.Proofs.Render.Lookup
import TextTemplate.Proofs.Render.Parallel
import TextTemplate.Proofs.Render.Reading
import TextTemplate.Proofs.Render.Substitution
import TextTemplate.Proofs.Render.Transparency
import TextTemplate.Proofs.Tag.Blame
import TextTemplate.Proofs.Tag.LineTag
import TextTemplate.Proofs.Tag.Order
import TextTemplate.Proofs.Tag.Recount
import TextTemplate.Proofs.Tag.Registry
import TextTemplate.Proofs.Tag.Splitting
import TextTemplate.Proofs.Value.BoundNames
import TextTemplate.Proofs.Value.Chain
import TextTemplate.Proofs.Value.Equality
import TextTemplate.Proofs.Value.Evaluation
import TextTemplate.Proofs.Value.Operation
import TextTemplate.Proofs.Value.Overflow
import TextTemplate.Proofs.Value.Pairing
import TextTemplate.Proofs.Value.Range
import TextTemplate.Proofs.Value.Ranking
import TextTemplate.Proofs.Value.Repetition
import TextTemplate.Proofs.Value.Slice
import TextTemplate.Proofs.Value.Sorting
import TextTemplate.Proofs.Value.Spelling
import TextTemplate.Proofs.Value.Truth
import TextTemplate.Proofs.Value.Unambiguous
import TextTemplate.Proofs.Value.Variables
