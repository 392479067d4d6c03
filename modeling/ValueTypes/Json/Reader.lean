import ValueTypes.Json.Token

namespace ValueTypes.Json

/-- An array or object that waits for a value: the items so far, the latest first, or the members so
far and the name of the next. -/
inductive Frame where
  | items (js : List Json)
  | members (ms : List (String × Json)) (name : String)

/-- What may come next, with the open frames, the innermost first. -/
inductive Reader where
  /-- A value; or, in an array just opened, its end. -/
  | value (closable : Bool) (open_ : List Frame)
  /-- A name; or, in an object just opened, its end. -/
  | name (closable : Bool) (ms : List (String × Json)) (open_ : List Frame)
  | colon (ms : List (String × Json)) (name : String) (open_ : List Frame)
  /-- What may follow a value in the innermost frame. -/
  | after (j : Json) (open_ : List Frame)

namespace Reader

/-- A value is read, or an array or object opened, if `limit` allows one more. -/
def start (limit : Nat) (fs : List Frame) : Token → Option Reader
  | .null => some (.after .null fs)
  | .bool b => some (.after (.bool b) fs)
  | .number n => some (.after (.number n) fs)
  | .string s => some (.after (.string s) fs)
  | .arrayOpen => if fs.length < limit then some (.value true (.items [] :: fs)) else none
  | .objectOpen => if fs.length < limit then some (.name true [] fs) else none
  | _ => none

/-- The value goes into its frame, which is continued or closed. -/
def follow (j : Json) : List Frame → Token → Option Reader
  | .items js :: fs, .comma => some (.value false (.items (j :: js) :: fs))
  | .items js :: fs, .arrayClose => some (.after (.array (j :: js).reverse) fs)
  | .members ms n :: fs, .comma => some (.name false (Entries.insert compare n j ms) fs)
  | .members ms n :: fs, .objectClose =>
    some (.after (.object (Entries.insert compare n j ms)) fs)
  | _, _ => none

def step (limit : Nat) : Reader → Token → Option Reader
  | .value closable fs, t =>
    match closable, fs, t with
    | true, .items js :: fs, .arrayClose => some (.after (.array js.reverse) fs)
    | _, fs, t => start limit fs t
  | .name closable ms fs, t =>
    match closable, t with
    | _, .string s => some (.colon ms s fs)
    | true, .objectClose => some (.after (.object ms) fs)
    | _, _ => none
  | .colon ms n fs, t => if t = .colon then some (.value false (.members ms n :: fs)) else none
  | .after j fs, t => follow j fs t

def result? : Reader → Option Json
  | .after j [] => some j
  | _ => none

end Reader

/-- The document that the tokens make, if it opens at most `limit` levels. -/
def ofTokens? (limit : Nat) (ts : List Token) : Option Json :=
  (ts.foldlM (Reader.step limit) (.value false [])).bind Reader.result?

def readWithin (limit : Nat) (s : String) : Option Json :=
  (Token.readAll s.toList).bind (ofTokens? limit)

def maxDepth : Nat := 127

def read (s : String) : Option Json := readWithin maxDepth s

end ValueTypes.Json
