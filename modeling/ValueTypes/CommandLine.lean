import ValueTypes.Command

/-!
The command line. Options may stand before or after other arguments, up to a double dash; a value may
follow its option or be joined to it by an equals sign.
-/
namespace ValueTypes.CommandLine

def programName : String := "strata"

def version : String := "0.1.0"

def usage : String :=
  "\n".intercalate [
    "Usage: strata [OPTIONS] <COMMAND>",
    "",
    "Commands:",
    "  ast      Print the AST of the type for a primitive",
    "  check    Check a JSON value against a type",
    "  lookup   Resolve a type constant name",
    "  compile  Compile an AST document back into a type",
    "  help     Print this message",
    "",
    "Options:",
    "  -v, --verbose  Enable verbose output; repeat for more",
    "  -h, --help     Print help",
    "  -V, --version  Print version",
    ""]

inductive Stop where
  | help
  | version
  | misuse
deriving DecidableEq

/-- The options that a part of the line takes: those with a value that may be given once, those with
a value that may be repeated, and those without. -/
structure Spec where
  single : List String := []
  repeatable : List String := []
  plain : List String := []

structure Given where
  verbosity : Nat := 0
  values : List (String × String) := []
  plain : List String := []
  operands : List String := []

/-- A letter option, or several in one argument. -/
def letters (version : Bool) (g : Given) : List Char → Except Stop Given
  | [] => .ok g
  | 'v' :: cs => letters version { g with verbosity := g.verbosity + 1 } cs
  | 'h' :: _ => .error .help
  | 'V' :: _ => .error (if version then .version else .misuse)
  | _ :: _ => .error .misuse

def plainOption (version : Bool) (spec : Spec) (g : Given) (name : String) : Except Stop Given :=
  if name = "verbose" then .ok { g with verbosity := g.verbosity + 1 }
  else if name = "help" then .error .help
  else if name = "version" && version then .error .version
  else if spec.plain.contains name && !g.plain.contains name then
    .ok { g with plain := g.plain ++ [name] }
  else .error .misuse

def takesValue (spec : Spec) (name : String) : Bool :=
  spec.single.contains name || spec.repeatable.contains name

def valueOption (spec : Spec) (g : Given) (name value : String) : Except Stop Given :=
  if spec.single.contains name && g.values.any (·.1 = name) then .error .misuse
  else .ok { g with values := g.values ++ [(name, value)] }

/-- An argument that stands for itself; a lone dash does. -/
def isOperand (arg : String) : Bool := !(arg.startsWith "-") || arg = "-"

/-- Name and joined value of an option that begins with two dashes. -/
def splitLong (arg : String) : String × Option String :=
  let cs := arg.toList.drop 2
  (String.ofList (cs.takeWhile (· != '=')),
    match cs.dropWhile (· != '=') with
    | [] => none
    | _ :: value => some (String.ofList value))

/-- The arguments of a command, which takes at most one operand. -/
def readArgs (spec : Spec) (g : Given) : List String → Except Stop Given
  | [] => .ok g
  | "--" :: rest =>
    if g.operands.length + rest.length ≤ 1 then .ok { g with operands := g.operands ++ rest }
    else .error .misuse
  | arg :: rest =>
    if isOperand arg then
      if g.operands.isEmpty then readArgs spec { g with operands := [arg] } rest
      else .error .misuse
    else if arg.startsWith "--" then
      let (name, joined) := splitLong arg
      if takesValue spec name then
        match joined, rest with
        | some value, rest => (valueOption spec g name value).bind (readArgs spec · rest)
        | none, value :: rest =>
          if isOperand value then (valueOption spec g name value).bind (readArgs spec · rest)
          else .error .misuse
        | none, [] => .error .misuse
      else if joined.isSome then .error .misuse
      else (plainOption false spec g name).bind (readArgs spec · rest)
    else (letters false g (arg.toList.drop 1)).bind (readArgs spec · rest)

def Given.value? (g : Given) (name : String) : Option String :=
  (g.values.find? (·.1 = name)).map (·.2)

def Given.allValues (g : Given) (name : String) : List String :=
  (g.values.filter (·.1 = name)).map (·.2)

def Given.operand (g : Given) : Except Stop String :=
  match g.operands with
  | [s] => .ok s
  | _ => .error .misuse

/-- Help is about the whole program or about one command. -/
def helpOn (topics : List String) : Stop :=
  match topics with
  | [] => .help
  | [topic] =>
    if ["ast", "check", "lookup", "compile", "help"].contains topic then .help else .misuse
  | _ => .misuse

/-- The command of a name, and its arguments. A check has a type by name or by description. -/
def readCommand (name : String) (args : List String) : Except Stop (Nat × Command) :=
  if name = "ast" then do
    let g ← readArgs { repeatable := ["meta"], plain := ["no-meta", "pretty"] } {} args
    return (g.verbosity, .ast (← g.operand) (g.allValues "meta") (!g.plain.contains "no-meta")
      (g.plain.contains "pretty"))
  else if name = "check" then do
    let g ← readArgs { single := ["type", "ast"] } {} args
    let input ← g.operand
    if (g.value? "type").isSome = (g.value? "ast").isSome then .error .misuse
    else return (g.verbosity, .check (g.value? "type") (g.value? "ast") input)
  else if name = "lookup" then do
    let g ← readArgs {} {} args
    return (g.verbosity, .lookup (← g.operand))
  else if name = "compile" then do
    let g ← readArgs {} {} args
    return (g.verbosity, .compile (← g.operand))
  else if name = "help" then .error (helpOn args)
  else .error .misuse

/-- The verbosity asked for and the command. What is asked for after the command's name counts, if
anything is. -/
def read (g : Given) : List String → Except Stop (Nat × Command)
  | [] => .error .misuse
  | arg :: rest =>
    if isOperand arg then
      (readCommand arg rest).map fun (n, c) => (if n = 0 then g.verbosity else n, c)
    else if arg.startsWith "--" then
      match splitLong arg with
      | (name, none) => (plainOption true {} g name).bind (read · rest)
      | (_, some _) => .error .misuse
    else (letters true g (arg.toList.drop 1)).bind (read · rest)

def startLog : Log := ⟨.debug, "strata CLI starting", [("version", Text.quote version)]⟩

/-- Exit code, output and shown log of a line of arguments. Misuse has code 2 and no output here. -/
def run (args : List String) : Answer × List Log :=
  match read {} args with
  | .error .help => (⟨0, usage⟩, [])
  | .error .version => (⟨0, programName ++ " " ++ version ++ "\n"⟩, [])
  | .error .misuse => (⟨2, ""⟩, [])
  | .ok (n, c) =>
    let (logs, result) := c.run
    match result with
    | .ok answer => (answer, Log.shown n (startLog :: logs))
    | .error f => (⟨1, ""⟩, Log.shown n (startLog :: logs ++ [⟨.error, f.message, []⟩]))

end ValueTypes.CommandLine
