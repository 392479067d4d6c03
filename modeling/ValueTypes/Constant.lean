import ValueTypes.Log
import ValueTypes.TypeDef

namespace ValueTypes

def Kind.named? (name : String) : Option Kind :=
  [Kind.nominal, .array, .arrayMember, .hash, .map].find? (·.name = name)

/-- Still a name of nominal types, with a notice when it is first used. -/
def legacyName : String := "Definition"

structure Deprecations where
  warned : Bool := false
deriving DecidableEq, Inhabited

namespace Deprecations

def notice : Log :=
  ⟨.warn, legacyName ++ " is deprecated and will be removed in the next major version; " ++
    "use " ++ Kind.nominal.name ++ " instead",
    [("constant", Text.quote legacyName), ("replacement", Text.quote Kind.nominal.name)]⟩

/-- A use of the legacy name: the notice, unless it has been given. -/
def use (d : Deprecations) : Deprecations × List Log :=
  (⟨true⟩, if d.warned then [] else [notice])

/-- The kind of a name, and what looking it up leaves and logs. -/
def lookup (d : Deprecations) (name : String) : Option Kind × Deprecations × List Log :=
  if name = legacyName then (some .nominal, d.use) else (Kind.named? name, d, [])

end Deprecations
end ValueTypes
