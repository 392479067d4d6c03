namespace ValueTypes

structure Symbol where
  name : String
deriving DecidableEq, Inhabited

namespace Symbol

/-- Symbols are ordered as their names, by code points. -/
def cmp (a b : Symbol) : Ordering := compare a.name b.name

instance : Std.TransCmp cmp where
  eq_swap := Std.OrientedOrd.eq_swap
  isLE_trans := Std.TransOrd.isLE_trans

instance : Std.LawfulEqCmp cmp where
  compare_self := Std.ReflOrd.compare_self
  eq_of_compare h := congrArg Symbol.mk (Std.LawfulEqOrd.eq_of_compare h)

def render (s : Symbol) : String := ":" ++ s.name

end Symbol
end ValueTypes
