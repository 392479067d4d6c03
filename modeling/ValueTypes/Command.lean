import ValueTypes.Ast.Document
import ValueTypes.Constant
import ValueTypes.Report
import ValueTypes.Text.Blank

namespace ValueTypes

inductive CommandFault where
  | primitive (name : String) (f : Fault)
  | noteWithoutValue (pair : String)
  | noteWithoutKey (pair : String)
  | noType
  | typeNotJson
  | typeNotAst (f : Fault)
  | inputNotJson
  | astNotJson
  | notCompiled (f : Fault)

namespace CommandFault

def because (what : String) (fault : String) : String := what ++ ": " ++ fault

def message : CommandFault → String
  | .primitive name f => because ("invalid primitive name '" ++ name ++ "'") f.message
  | .noteWithoutValue pair => "meta entry '" ++ pair ++ "' must have the form key=value"
  | .noteWithoutKey pair => "meta entry '" ++ pair ++ "' has an empty key"
  | .noType => "either --type or --ast is required"
  | .typeNotJson => because "--ast is not valid JSON" Json.unreadable
  | .typeNotAst f => because "--ast is not a valid type AST" f.message
  | .inputNotJson => because "input is not valid JSON" Json.unreadable
  | .astNotJson => because "AST argument is not valid JSON" Json.unreadable
  | .notCompiled f => because "failed to compile AST" f.message

end CommandFault

inductive Command where
  | ast (primitive : String) (notes : List String) (withNotes pretty : Bool)
  | check (typeName description : Option String) (input : String)
  | lookup (name : String)
  | compile (description : String)
deriving DecidableEq, Inhabited

structure Answer where
  code : Nat
  out : String
deriving DecidableEq, Inhabited

namespace Command

/-- A result with the log written on the way, which a fault does not undo. -/
abbrev Logged (α : Type) := List Log × Except CommandFault α

def primitiveNamed (name : String) : Except CommandFault Primitive :=
  (Primitive.named name).mapError (.primitive name)

/-- The value of a note: a document if it reads as one, or else the text itself. -/
def noteValue (s : String) : Value :=
  match Json.read s with
  | some j => .ofJson j
  | none => .str s

/-- Key and value of a note, on both sides of the first equals sign. -/
def splitNote (pair : String) : Except CommandFault (Symbol × Value) :=
  let key := pair.toList.takeWhile (· != '=')
  match pair.toList.dropWhile (· != '=') with
  | [] => .error (.noteWithoutValue pair)
  | _ :: rest =>
    if key.isEmpty then .error (.noteWithoutKey pair)
    else .ok (⟨String.ofList key⟩, noteValue (String.ofList rest))

def readNotes (pairs : List String) : Except CommandFault OptionMap :=
  pairs.foldlM (fun m pair => (splitNote pair).map fun n => m.insert n.1 n.2) .empty

def printAst (withNotes pretty : Bool) (t : TypeDef) : String :=
  let j := (t.toAst withNotes).toJson
  (if pretty then j.pretty else j.compact) ++ "\n"

def builtLog (t : TypeDef) : Log :=
  ⟨.debug, "built type", [("kind", t.kind.name), ("name", t.name)]⟩

def runAst (primitive : String) (notes : List String) (withNotes pretty : Bool) : Logged Answer :=
  match primitiveNamed primitive, readNotes notes with
  | .error f, _ => ([], .error f)
  | .ok _, .error f => ([], .error f)
  | .ok p, .ok ns =>
    let t := TypeDef.build p .empty ns
    ([builtLog t], .ok ⟨0, printAst withNotes pretty t⟩)

def compileJson (j : Json) : List Log × Except Fault TypeDef :=
  match Ast.ofJson j with
  | .error f => ([], .error f)
  | .ok a =>
    (a.tags.map (fun tag => ⟨.trace, "compiling AST node", [("tag", Text.quote tag)]⟩) ++
      [⟨.debug, "compiled type from AST", [("kind", a.compile.kind.name)]⟩], .ok a.compile)

/-- The type to check against; a name is preferred to a description. -/
def typeToCheck (typeName description : Option String) : Logged TypeDef :=
  match typeName, description with
  | some name, _ => ([], (primitiveNamed name).map TypeDef.build)
  | none, some text =>
    match Json.read text with
    | none => ([], .error .typeNotJson)
    | some j => ((compileJson j).1, (compileJson j).2.mapError .typeNotAst)
  | none, none => ([], .error .noType)

def checkAnswer (t : TypeDef) (input : String) : Except CommandFault Answer :=
  match Json.read input with
  | none => .error .inputNotJson
  | some j =>
    let v := Value.ofJson j
    .ok ⟨if t.coerces v then 0 else 1, t.report v⟩

def runCheck (typeName description : Option String) (input : String) : Logged Answer :=
  let (logs, t) := typeToCheck typeName description
  (logs, t.bind (checkAnswer · input))

/-- A name may have blanks around it, and is printed as it was given. -/
def runLookup (name : String) : Logged Answer :=
  match Deprecations.lookup {} (Text.trim name) with
  | (some kind, _, logs) => (logs, .ok ⟨0, name ++ " => " ++ kind.name ++ "\n"⟩)
  | (none, _, logs) =>
    (logs ++ [⟨.error, "unknown type constant", [("name", name)]⟩], .ok ⟨1, ""⟩)

def describe (t : TypeDef) : String :=
  "kind: " ++ t.kind.name ++ "\nname: " ++ t.name ++ "\nast:  " ++ t.ast.toJson.compact ++ "\n"

def runCompile (description : String) : Logged Answer :=
  match Json.read description with
  | none => ([], .error .astNotJson)
  | some j =>
    let (logs, t) := compileJson j
    (logs, (t.mapError .notCompiled).map fun t => ⟨0, describe t⟩)

def run : Command → Logged Answer
  | .ast p ns withNotes pretty => runAst p ns withNotes pretty
  | .check typeName description input => runCheck typeName description input
  | .lookup name => runLookup name
  | .compile description => runCompile description

end Command
end ValueTypes
