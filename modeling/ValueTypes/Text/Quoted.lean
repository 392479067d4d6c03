import ValueTypes.Text.Invisible

namespace ValueTypes.Text

def printableAscii (c : Char) : Bool := ' ' ≤ c && c ≤ '~'

def byNumber (c : Char) : List Char := '\\' :: 'u' :: '{' :: Nat.toDigits 16 c.toNat ++ ['}']

/-- Six characters are escaped by name, others that do not show by their number. An apostrophe
stands for itself. -/
def escape (c : Char) : List Char :=
  if c = '"' then ['\\', '"']
  else if c = '\\' then ['\\', '\\']
  else if c = '\x00' then ['\\', '0']
  else if c = '\t' then ['\\', 't']
  else if c = '\r' then ['\\', 'r']
  else if c = '\n' then ['\\', 'n']
  else if !printableAscii c && invisible c then byNumber c
  else [c]

def quote (s : String) : String :=
  "\"" ++ String.ofList (s.toList.flatMap escape) ++ "\""

end ValueTypes.Text
