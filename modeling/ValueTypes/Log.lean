import ValueTypes.Text.Control

namespace ValueTypes

inductive Level where
  | error
  | warn
  | info
  | debug
  | trace
deriving DecidableEq, Inhabited

namespace Level

def name : Level → String
  | error => "ERROR"
  | warn => "WARN"
  | info => "INFO"
  | debug => "DEBUG"
  | trace => "TRACE"

def detail : Level → Nat
  | error => 0
  | warn => 0
  | info => 1
  | debug => 2
  | trace => 3

end Level

structure Log where
  level : Level
  message : String
  fields : List (String × String) := []
deriving DecidableEq, Inhabited

/-- The message cannot give a terminal orders. The values of fields stand as they are. -/
def Log.text (l : Log) : String :=
  Text.harmless l.message ++ String.join (l.fields.map fun f => " " ++ f.1 ++ "=" ++ f.2)

def Log.shown (n : Nat) (logs : List Log) : List Log :=
  logs.filter fun l => l.level.detail ≤ n

end ValueTypes
