import Mathlib.Data.List.Nodup
import Mathlib.Data.List.Perm.Subperm
import ValueTypes.Proofs.Lookup
import ValueTypes.Proofs.Native

namespace ValueTypes

namespace Value

end Value
end ValueTypes
