import ValueTypes.Json.Token

namespace ValueTypes.Json

mutual

def tokens : Json → List Token
  | .null => [.null]
  | .bool b => [.bool b]
  | .number n => [.number n]
  | .string s => [.string s]
  | .array items => .arrayOpen :: [Token.comma].intercalate (itemTokens items) ++ [.arrayClose]
  | .object ms => .objectOpen :: [Token.comma].intercalate (memberTokens ms) ++ [.objectClose]

def itemTokens : List Json → List (List Token)
  | [] => []
  | j :: js => tokens j :: itemTokens js

def memberTokens : List (String × Json) → List (List Token)
  | [] => []
  | m :: ms => (.string m.1 :: .colon :: tokens m.2) :: memberTokens ms

end

def compact (j : Json) : String := String.join (j.tokens.map Token.text)

def indent (level : Nat) : String := String.ofList (List.replicate (2 * level) ' ')

/-- Parts on lines of their own, one level in; a group without parts stays closed. -/
def block (level : Nat) (first last : Token) (parts : List String) : String :=
  if parts.isEmpty then first.text ++ last.text
  else
    let lines := parts.map (indent (level + 1) ++ ·)
    first.text ++ "\n" ++ ",\n".intercalate lines ++ "\n" ++ indent level ++ last.text

mutual

def prettyAt (level : Nat) : Json → String
  | .array items => block level .arrayOpen .arrayClose (prettyItems (level + 1) items)
  | .object ms => block level .objectOpen .objectClose (prettyMembers (level + 1) ms)
  | .null => Token.null.text
  | .bool b => (Token.bool b).text
  | .number n => (Token.number n).text
  | .string s => (Token.string s).text

def prettyItems (level : Nat) : List Json → List String
  | [] => []
  | j :: js => prettyAt level j :: prettyItems level js

def prettyMembers (level : Nat) : List (String × Json) → List String
  | [] => []
  | m :: ms => (Token.quote m.1 ++ ": " ++ prettyAt level m.2) :: prettyMembers level ms

end

def pretty (j : Json) : String := prettyAt 0 j

end ValueTypes.Json
