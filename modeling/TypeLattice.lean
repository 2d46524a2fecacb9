import TypeLattice.ArrayStore
import TypeLattice.ClassTable
import TypeLattice.Constant
import TypeLattice.CoreClasses
import TypeLattice.Datum
import TypeLattice.Deployment
import TypeLattice.Dispatch
import TypeLattice.Dump
import TypeLattice.Event
import TypeLattice.Ids
import TypeLattice.Interner
import TypeLattice.LogFormat
import TypeLattice.PathGuard
import TypeLattice.Proofs.Classes.Inheritance
import TypeLattice.Proofs.Classes.Search
import TypeLattice.Proofs.Data.Distinctness
import TypeLattice.Proofs.Data.Promotion
import TypeLattice.Proofs.Deployment.Placement
import TypeLattice.Proofs.Deployment.PostOrder
import TypeLattice.Proofs.Deployment.RoundTrip
import TypeLattice.Proofs.Deployment.Sharing
import TypeLattice.Proofs.Guard.Accounting
import TypeLattice.Proofs.Names.Interning
import TypeLattice.Proofs.Resolution.Acyclic
import TypeLattice.Proofs.Resolution.Beneath
import TypeLattice.Proofs.Resolution.Closed
import TypeLattice.Proofs.Resolution.Dispatch
import TypeLattice.Proofs.Resolution.EarlyLate
import TypeLattice.Proofs.Resolution.Expansion
import TypeLattice.Proofs.Resolution.Final
import TypeLattice.Proofs.Resolution.InOrder
import TypeLattice.Proofs.Resolution.LargerLimits
import TypeLattice.Proofs.Resolution.Locality
import TypeLattice.Proofs.Resolution.Missing
import TypeLattice.Proofs.Resolution.OrderFree
import TypeLattice.Proofs.Resolution.Sharing
import TypeLattice.Proofs.Resolution.Substitution
import TypeLattice.Proofs.Resolution.Traversal
import TypeLattice.Proofs.Resolution.Unchanged
import TypeLattice.Proofs.Resolution.Unrolling
import TypeLattice.Proofs.Resolution.Visits
import TypeLattice.Proofs.Store.Growth
import TypeLattice.Proofs.Store.Numbering
import TypeLattice.Proofs.Store.References
import TypeLattice.Proofs.Store.WriteHistory
import TypeLattice.Proofs.Text.Unambiguous
import TypeLattice.Proofs.Types.Equality
import TypeLattice.Proofs.Types.Equivalence
import TypeLattice.Proofs.Types.FirstSeen
import TypeLattice.Proofs.Types.Hashing
import TypeLattice.Proofs.Types.Interchange
import TypeLattice.Proofs.Types.Join
import TypeLattice.Proofs.Types.Members
import TypeLattice.Proofs.Types.Mentions
import TypeLattice.Proofs.Types.Reading
import TypeLattice.Proofs.Types.ScreenName
import TypeLattice.Proofs.Types.Structural
import TypeLattice.Proofs.Types.Writing
import TypeLattice.Refusal
import TypeLattice.Resolver
import TypeLattice.ScreenName
import TypeLattice.Shape
import TypeLattice.Signature
import TypeLattice.Step
import TypeLattice.Text.CharRange
import TypeLattice.Text.Extender
import TypeLattice.Text.Invisible
import TypeLattice.Text.Quoted
import TypeLattice.Ty.Basic
import TypeLattice.Ty.Closed
import TypeLattice.Ty.Equality
import TypeLattice.Ty.HashFeed
import TypeLattice.TyUnion
import TypeLattice.Violation
