import DocStore.Filter.Memo
import DocStore.Main
import DocStore.Proofs.Runs
import DocStore.Store
import DocStore.Unicode.Age
import DocStore.Unicode.Newest
import DocStore.Unicode.PropertyName
import DocStore.Proofs.Verdict
import DocStore.Proofs.History
import DocStore.Proofs.Identity
import DocStore.Proofs.KeyedStore
import DocStore.Proofs.Markers
import DocStore.Proofs.Refinement
import DocStore.Proofs.Atomicity
import DocStore.Proofs.Removal
import DocStore.Proofs.Permutation
import DocStore.Proofs.Equality
import DocStore.Proofs.Rearrangement
import DocStore.Proofs.Traffic
import DocStore.Proofs.Retrieval
import DocStore.Proofs.Independence
import DocStore.Proofs.FirstFault
import DocStore.Proofs.UncheckedPatterns
import DocStore.Proofs.SortOrder
import DocStore.Proofs.Summation
import DocStore.Proofs.Elements
import DocStore.Proofs.IntegerOrder
import DocStore.Proofs.SortedReads
import DocStore.Proofs.FilteredReads
import DocStore.Proofs.Pages
import DocStore.Proofs.SubFilters
import DocStore.Proofs.Membership
import DocStore.Proofs.TouchedFields
import DocStore.Proofs.WireForm
import DocStore.Proofs.ValidatedPatterns
import DocStore.Proofs.Remembering
import DocStore.Proofs.ManyLookups
import DocStore.Proofs.IdentifierForms
import DocStore.Proofs.IdentifierLiterals
import DocStore.Proofs.Indexes
import DocStore.Proofs.LogLines
import DocStore.Proofs.StepChains
import DocStore.Proofs.DottedPaths
