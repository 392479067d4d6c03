import ValueTypes.Json.Printer
import ValueTypes.Json.Reader
import ValueTypes.Value.Document

namespace ValueTypes

structure OptionMap where
  entries : List (Symbol × Value)
  ascending : Entries.Ascending Symbol.cmp entries
deriving DecidableEq

namespace OptionMap

def empty : OptionMap := ⟨[], Entries.ascending_nil⟩

instance : Inhabited OptionMap := ⟨empty⟩

/-- Of two pairs with one key the later counts. -/
def ofList (ps : List (Symbol × Value)) : OptionMap :=
  ⟨Entries.ofList Symbol.cmp ps, Entries.ascending_ofList ps⟩

def find? (m : OptionMap) (k : Symbol) : Option Value := Entries.find? Symbol.cmp k m.entries

def findD (m : OptionMap) (k : Symbol) (default : Value) : Value := (m.find? k).getD default

def contains (m : OptionMap) (k : Symbol) : Bool := (m.find? k).isSome

def size (m : OptionMap) : Nat := m.entries.length

def isEmpty (m : OptionMap) : Bool := m.entries.isEmpty

def insert (m : OptionMap) (k : Symbol) (v : Value) : OptionMap :=
  ⟨Entries.insert Symbol.cmp k v m.entries, m.ascending.insert k v⟩

def merge (lower upper : OptionMap) : OptionMap :=
  if upper.isEmpty then lower
  else if lower.isEmpty then upper
  else ⟨Entries.layer Symbol.cmp lower.entries upper.entries, lower.ascending.layer upper.entries⟩

def erase (m : OptionMap) (k : Symbol) : OptionMap :=
  ⟨Entries.erase Symbol.cmp k m.entries, m.ascending.erase k⟩

/-- Entries are compared one by one, keys before values. -/
def cmpEntries : List (Symbol × Value) → List (Symbol × Value) → Ordering
  | [], [] => .eq
  | [], _ :: _ => .lt
  | _ :: _, [] => .gt
  | (k, v) :: es, (l, w) :: fs => (k.cmp l).then ((v.cmp w).then (cmpEntries es fs))

def cmp (m n : OptionMap) : Ordering := cmpEntries m.entries n.entries

def dump (m : OptionMap) : String :=
  Value.braces (m.entries.map fun e => e.1.render ++ ": " ++ e.2.dump)

def toJson (m : OptionMap) : Json := .ofMembers (m.entries.map fun e => (e.1.name, e.2.toJson))

def write (m : OptionMap) : String :=
  "\x7b" ++ ",".intercalate (m.entries.map fun e => Json.Token.quote e.1.name ++ ":" ++
    e.2.toJson.compact) ++ "\x7d"

def ofMembers (ms : List (String × Json)) : OptionMap :=
  ofList (ms.map fun m => (⟨m.1⟩, Value.ofJson m.2))

/-- The map that a document holds on its own: its members are first gathered by name. -/
def ofJson? : Json → Option OptionMap
  | .object ms =>
    let gathered := Entries.ofList compare (ms.map fun m => (m.1, Value.ofJson m.2))
    some (ofList (gathered.map fun e => (⟨e.1⟩, e.2)))
  | _ => none

def read (s : String) : Option OptionMap := (Json.read s).bind ofJson?

end OptionMap
end ValueTypes
