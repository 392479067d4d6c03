import ValueTypes.Constant.Calls
import ValueTypes.Main
import ValueTypes.OptionMap.Stored
import ValueTypes.Primitive.Document
import ValueTypes.TypeDef.Stored
import ValueTypes.Value.Feed
import ValueTypes.Proofs.Acceptance
import ValueTypes.Proofs.Callback
import ValueTypes.Proofs.Canonical
import ValueTypes.Proofs.ClassName
import ValueTypes.Proofs.Collecting
import ValueTypes.Proofs.Collision
import ValueTypes.Proofs.Commands
import ValueTypes.Proofs.Complaint
import ValueTypes.Proofs.Covariance
import ValueTypes.Proofs.Document
import ValueTypes.Proofs.Entries
import ValueTypes.Proofs.Except
import ValueTypes.Proofs.Extension
import ValueTypes.Proofs.Failure
import ValueTypes.Proofs.Feed
import ValueTypes.Proofs.FiniteMap
import ValueTypes.Proofs.FloatOrder
import ValueTypes.Proofs.FloatText
import ValueTypes.Proofs.Grammar
import ValueTypes.Proofs.Hierarchy
import ValueTypes.Proofs.Identity
import ValueTypes.Proofs.Labelling
import ValueTypes.Proofs.Legible
import ValueTypes.Proofs.Lookup
import ValueTypes.Proofs.Loss
import ValueTypes.Proofs.Magnitude
import ValueTypes.Proofs.Making
import ValueTypes.Proofs.Meaning
import ValueTypes.Proofs.Membership
import ValueTypes.Proofs.Naming
import ValueTypes.Proofs.Native
import ValueTypes.Proofs.Nesting
import ValueTypes.Proofs.Notice
import ValueTypes.Proofs.Numeral
import ValueTypes.Proofs.OneLine
import ValueTypes.Proofs.OptionMap
import ValueTypes.Proofs.Order
import ValueTypes.Proofs.Primitive
import ValueTypes.Proofs.Refusal
import ValueTypes.Proofs.Report
import ValueTypes.Proofs.Rounding
import ValueTypes.Proofs.Scientific
import ValueTypes.Proofs.Sharing
import ValueTypes.Proofs.Skeleton
import ValueTypes.Proofs.Sorted
import ValueTypes.Proofs.Spelling
import ValueTypes.Proofs.Standalone
import ValueTypes.Proofs.Trail
import ValueTypes.Proofs.TypeText
import ValueTypes.Proofs.WithoutNotes
import ValueTypes.Proofs.Written
