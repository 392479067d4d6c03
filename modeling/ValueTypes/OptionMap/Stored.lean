import ValueTypes.OptionMap

/-!
Option maps with the place they are stored in. All maps that are empty sit in one store, so types
without options cost no storage of their own.
-/
namespace ValueTypes

structure StoredMap where
  map : OptionMap
  /-- The map sits in the one store of empty maps. -/
  shared : Bool

namespace StoredMap

instance : Inhabited StoredMap := ⟨.empty, true⟩

def new : StoredMap := ⟨.empty, true⟩

/-- A map just built takes a store of its own unless it is empty. -/
def ofMap (m : OptionMap) : StoredMap := if m.isEmpty then new else ⟨m, false⟩

def ofList (ps : List (Symbol × Value)) : StoredMap := ofMap (.ofList ps)

def read (s : String) : Option StoredMap := (OptionMap.read s).map ofMap

def ofJson? (j : Json) : Option StoredMap := (OptionMap.ofJson? j).map ofMap

def insert (s : StoredMap) (k : Symbol) (v : Value) : StoredMap := ⟨s.map.insert k v, false⟩

/-- Nothing is stored anew where one side is empty. -/
def merge (lower upper : StoredMap) : StoredMap :=
  if upper.map.isEmpty then lower
  else if lower.map.isEmpty then upper
  else ⟨lower.map.merge upper.map, false⟩

def erase (s : StoredMap) (k : Symbol) : StoredMap :=
  if s.map.contains k then ofMap (s.map.erase k) else s

end StoredMap
end ValueTypes
