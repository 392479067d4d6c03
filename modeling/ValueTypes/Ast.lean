import ValueTypes.TypeDef

namespace ValueTypes

/-- What is left of a type when it is exported. Only plain hash types keep their options. -/
inductive Ast where
  | nominal (p : Primitive) (notes : OptionMap)
  | array (member : Ast) (notes : OptionMap)
  | hash (options notes : OptionMap)
  | map (key value : Ast) (notes : OptionMap)
deriving DecidableEq, Inhabited

namespace Ast

def tag : Ast → String
  | .nominal .. => "nominal"
  | .array .. => "array"
  | .hash .. => "hash"
  | .map .. => "map"

def notes : Ast → OptionMap
  | .nominal _ ns => ns
  | .array _ ns => ns
  | .hash _ ns => ns
  | .map _ _ ns => ns

/-- Tags of all nodes, each before those below it. -/
def tags : Ast → List String
  | .array m ns => (Ast.array m ns).tag :: m.tags
  | .map k v ns => (Ast.map k v ns).tag :: k.tags ++ v.tags
  | a => [a.tag]

def compile : Ast → TypeDef
  | .nominal p ns => .build p .empty ns
  | .array m ns => (TypeDef.arrayMember {} m.compile).withNotes ns
  | .hash options ns => (TypeDef.hash (Labels.withOptions {} options)).withNotes ns
  | .map k v ns => (TypeDef.map {} k.compile v.compile).withNotes ns

end Ast

namespace TypeDef

def exportedNotes (withNotes : Bool) (notes : OptionMap) : OptionMap :=
  if withNotes then notes else .empty

def toAst (withNotes : Bool) : TypeDef → Ast
  | .nominal p l => .nominal p (exportedNotes withNotes l.notes)
  | .array l => .nominal (.builtin .array) (exportedNotes withNotes l.notes)
  | .arrayMember l m => .array (m.toAst withNotes) (exportedNotes withNotes l.notes)
  | .hash l => .hash l.options (exportedNotes withNotes l.notes)
  | .map l k v => .map (k.toAst withNotes) (v.toAst withNotes) (exportedNotes withNotes l.notes)

def ast (t : TypeDef) : Ast := t.toAst true

end TypeDef
end ValueTypes
