import MixinIndex.Config.Json
import MixinIndex.Declaration.Edit
import MixinIndex.Main
import MixinIndex.Mod.Json
import MixinIndex.Store.Run
import MixinIndex.Store.Work
import MixinIndex.Proofs.Declaration.Adoption
import MixinIndex.Proofs.Contribution.Counting
import MixinIndex.Proofs.Contribution.Plain
import MixinIndex.Proofs.Contribution.Refinement
import MixinIndex.Proofs.Contribution.Changes
import MixinIndex.Proofs.Contribution.Exactness
import MixinIndex.Proofs.Contribution.Reading
import MixinIndex.Proofs.Contribution.Loading
import MixinIndex.Proofs.Contribution.Naming
import MixinIndex.Proofs.Store.Contributed
import MixinIndex.Proofs.Store.Rebuild
import MixinIndex.Proofs.Store.Holdings
import MixinIndex.Proofs.Store.Provenance
import MixinIndex.Proofs.Store.Safety
import MixinIndex.Proofs.Store.Edits
import MixinIndex.Proofs.Store.Requests
import MixinIndex.Proofs.Store.Isolation
import MixinIndex.Proofs.Store.Realization
import MixinIndex.Proofs.Contribution.Reflecting
import MixinIndex.Proofs.Store.Staleness
import MixinIndex.Proofs.Store.Tending
import MixinIndex.Proofs.Store.Applied
import MixinIndex.Proofs.Store.Prefilter
import MixinIndex.Proofs.Signature.Grammar
import MixinIndex.Proofs.Signature.Bytes
import MixinIndex.Proofs.Signature.Productions
import MixinIndex.Proofs.Quantifier.Grammar
import MixinIndex.Proofs.Quantifier.Satisfiable
import MixinIndex.Proofs.Quantifier.Offsets
import MixinIndex.Proofs.Specifier.Grammar
import MixinIndex.Proofs.Specifier.Offsets
import MixinIndex.Proofs.Signature.Erasure
import MixinIndex.Proofs.Signature.Bounds
import MixinIndex.Proofs.Signature.Scopes
import MixinIndex.Proofs.Signature.Separators
import MixinIndex.Proofs.Resolution.Selection
import MixinIndex.Proofs.Specifier.Exact
import MixinIndex.Proofs.Resolution.Notations
import MixinIndex.Proofs.Resolution.OwnDescriptor
import MixinIndex.Proofs.Resolution.Positions
import MixinIndex.Proofs.Resolution.ExactLookup
import MixinIndex.Proofs.Augmentation.Gathering
import MixinIndex.Proofs.Augmentation.Composition
import MixinIndex.Proofs.Augmentation.Accounting
import MixinIndex.Proofs.Augmentation.Overwriting
import MixinIndex.Proofs.Augmentation.Uses
import MixinIndex.Proofs.Augmentation.DerivedNames
import MixinIndex.Proofs.Augmentation.Injectors
import MixinIndex.Proofs.Store.Undisturbed
import MixinIndex.Proofs.Store.LoadState
import MixinIndex.Proofs.Store.Failures
import MixinIndex.Proofs.Store.Declared
import MixinIndex.Proofs.Store.Noninterference
import MixinIndex.Proofs.TypeName.Canonical
import MixinIndex.Proofs.Resource.Confinement
import MixinIndex.Proofs.Config.RoundTrip
