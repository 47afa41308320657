import Stencil.Cache.MemoryStore
import Stencil.Config.File
import Stencil.Render
import Stencil.Sample.Blog
import Stencil.Proofs.Block.Reach
import Stencil.Proofs.Run.Hereditary
import Stencil.Proofs.Run.Calls
import Stencil.Proofs.Run.Blocks
import Stencil.Proofs.Run.Bound
import Stencil.Proofs.Run.Frame
import Stencil.Proofs.Cache.Unusable
import Stencil.Proofs.Json.RoundTrip
import Stencil.Proofs.Json.Injective
import Stencil.Proofs.Cache.Memory
import Stencil.Proofs.Cache.Warm
import Stencil.Proofs.Cache.Batched
import Stencil.Proofs.Cache.StoreKey
import Stencil.Proofs.Run.Attached
import Stencil.Proofs.Run.Context
import Stencil.Proofs.Cache.Namespaces
import Stencil.Proofs.Run.KeyFormat
import Stencil.Proofs.Run.Atomic
import Stencil.Proofs.Run.Shapes
import Stencil.Proofs.Json.Pruned
import Stencil.Proofs.Run.Documents
import Stencil.Proofs.Run.Invariants
import Stencil.Proofs.Run.Rules
import Stencil.Proofs.Cache.Faithful
import Stencil.Proofs.Run.Pruned
import Stencil.Proofs.Run.Course
import Stencil.Proofs.Run.Added
import Stencil.Proofs.Cache.Completed
import Stencil.Proofs.Cache.Inactive
import Stencil.Proofs.Run.Reached
import Stencil.Proofs.Run.UniqueKeys
import Stencil.Proofs.Run.Written
import Stencil.Proofs.Cache.Collected
import Stencil.Proofs.Partial.Name
import Stencil.Proofs.Partial.Registry
import Stencil.Proofs.Run.Aliases
import Stencil.Proofs.Json.Depth
import Stencil.Proofs.Cache.Kept
import Stencil.Proofs.Cache.FailedCollection
import Stencil.Proofs.Cache.Flattened
import Stencil.Proofs.Cache.MemberOrder
import Stencil.Proofs.Run.CollectionPartials
import Stencil.Proofs.Scope.Splices
import Stencil.Proofs.Cache.Versions
import Stencil.Proofs.Cache.History
import Stencil.Proofs.Config.Saved
import Stencil.Proofs.Cache.BestEffort
import Stencil.Proofs.Key.Strategies
import Stencil.Proofs.Partial.Suggestions
import Stencil.Proofs.Partial.Threshold
