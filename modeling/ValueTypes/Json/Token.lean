import ValueTypes.Json.Number

namespace ValueTypes.Json

inductive Token where
  | arrayOpen
  | arrayClose
  | objectOpen
  | objectClose
  | comma
  | colon
  | null
  | bool (b : Bool)
  | number (n : Number)
  | string (s : String)
deriving DecidableEq

namespace Token

/- Texts of strings: only quotes, backslashes and controls are escaped. -/

def escape (c : Char) : List Char :=
  if c = '"' then ['\\', '"']
  else if c = '\\' then ['\\', '\\']
  else if c = '\n' then ['\\', 'n']
  else if c = '\r' then ['\\', 'r']
  else if c = '\t' then ['\\', 't']
  else if c = '\x08' then ['\\', 'b']
  else if c = '\x0c' then ['\\', 'f']
  else if c < ' ' then
    ['\\', 'u', '0', '0', Nat.digitChar (c.toNat / 16), Nat.digitChar (c.toNat % 16)]
  else [c]

def quote (s : String) : String := "\"" ++ String.ofList (s.toList.flatMap escape) ++ "\""

def text : Token → String
  | .arrayOpen => "["
  | .arrayClose => "]"
  | .objectOpen => "\x7b"
  | .objectClose => "\x7d"
  | .comma => ","
  | .colon => ":"
  | .null => "null"
  | .bool true => "true"
  | .bool false => "false"
  | .number n => n.text
  | .string s => quote s

/- Reading of strings, from after the opening quote to after the closing one. -/

def unescape : Char → Option Char
  | '"' => some '"'
  | '\\' => some '\\'
  | '/' => some '/'
  | 'b' => some '\x08'
  | 'f' => some '\x0c'
  | 'n' => some '\n'
  | 'r' => some '\r'
  | 't' => some '\t'
  | _ => none

def hexDigit? (c : Char) : Option Nat :=
  if c.isDigit then some (c.toNat - '0'.toNat)
  else if 'a' ≤ c && c ≤ 'f' then some (c.toNat - 'a'.toNat + 10)
  else if 'A' ≤ c && c ≤ 'F' then some (c.toNat - 'A'.toNat + 10)
  else none

def hex? (a b c d : Char) : Option Nat := do
  return (((← hexDigit? a) * 16 + (← hexDigit? b)) * 16 + (← hexDigit? c)) * 16 + (← hexDigit? d)

def isHighSurrogate (n : Nat) : Bool := 0xd800 ≤ n && n < 0xdc00

def isLowSurrogate (n : Nat) : Bool := 0xdc00 ≤ n && n < 0xe000

/-- A surrogate counts only as half of a pair, the high half first. -/
def readString : List Char → Option (List Char × List Char)
  | [] => none
  | '"' :: r => some ([], r)
  | '\\' :: 'u' :: a :: b :: c :: d :: r =>
    match hex? a b c d with
    | none => none
    | some u =>
      if isHighSurrogate u then
        match r with
        | '\\' :: 'u' :: a :: b :: c :: d :: r =>
          match hex? a b c d with
          | none => none
          | some v =>
            if isLowSurrogate v then
              (readString r).map fun s =>
                (Char.ofNat (0x10000 + (u - 0xd800) * 0x400 + (v - 0xdc00)) :: s.1, s.2)
            else none
        | _ => none
      else if isLowSurrogate u then none
      else (readString r).map fun s => (Char.ofNat u :: s.1, s.2)
  | '\\' :: e :: r =>
    match unescape e with
    | none => none
    | some c => (readString r).map fun s => (c :: s.1, s.2)
  | c :: r => if c < ' ' || c = '\\' then none else (readString r).map fun s => (c :: s.1, s.2)

theorem length_of_map_cons {cs r s : List Char} {c : Char}
    (shorter : ∀ {r s}, readString cs = some (s, r) → r.length < cs.length)
    (h : (readString cs).map (fun t => (c :: t.1, t.2)) = some (s, r)) : r.length < cs.length := by
  obtain ⟨⟨t, rest⟩, read, same⟩ := Option.map_eq_some_iff.mp h
  cases same
  exact shorter read

theorem length_readString {cs r s : List Char} (h : readString cs = some (s, r)) :
    r.length < cs.length := by
  fun_induction readString cs generalizing s r with
  | case2 =>
    cases h
    exact Nat.lt_succ_self _
  | case5 _ _ _ _ _ _ _ _ _ _ _ _ _ _ _ ih =>
    have shorter := length_of_map_cons ih h
    simp only [List.length_cons]
    omega
  | case9 _ _ _ _ _ _ _ _ _ ih =>
    have shorter := length_of_map_cons ih h
    simp only [List.length_cons]
    omega
  | case11 _ _ _ _ _ ih =>
    have shorter := length_of_map_cons ih h
    simp only [List.length_cons]
    omega
  | case13 _ _ _ _ _ _ ih => exact Nat.lt_succ_of_lt (length_of_map_cons ih h)
  | _ => cases h

def isBlank (c : Char) : Bool := c = ' ' || c = '\t' || c = '\n' || c = '\r'

def isNumeric (c : Char) : Bool := c.isDigit || c = '-' || c = '+' || c = '.' || c = 'e' || c = 'E'

def mark? : Char → Option Token
  | '[' => some .arrayOpen
  | ']' => some .arrayClose
  | '\x7b' => some .objectOpen
  | '\x7d' => some .objectClose
  | ',' => some .comma
  | ':' => some .colon
  | _ => none

def word? : List Char → Option (Token × List Char)
  | 'n' :: 'u' :: 'l' :: 'l' :: r => some (.null, r)
  | 't' :: 'r' :: 'u' :: 'e' :: r => some (.bool true, r)
  | 'f' :: 'a' :: 'l' :: 's' :: 'e' :: r => some (.bool false, r)
  | _ => none

/-- The token that starts with `c`, and the rest. A number takes all numeric characters. -/
def next? (c : Char) (r : List Char) : Option (Token × List Char) :=
  match mark? c with
  | some t => some (t, r)
  | none =>
    if c = '"' then (readString r).map fun s => (.string (String.ofList s.1), s.2)
    else if isNumeric c then
      (Number.read (c :: r.takeWhile isNumeric)).map fun n => (.number n, r.dropWhile isNumeric)
    else word? (c :: r)

theorem length_word? {cs r : List Char} {t : Token} (h : word? cs = some (t, r)) :
    r.length < cs.length := by
  unfold word? at h
  split at h <;> cases h
  all_goals
    simp only [List.length_cons]
    omega

theorem length_next? {c : Char} {cs r : List Char} {t : Token} (h : next? c cs = some (t, r)) :
    r.length ≤ cs.length := by
  unfold next? at h
  split at h
  · cases h
    exact Nat.le_refl _
  split at h
  · obtain ⟨s, read, same⟩ := Option.map_eq_some_iff.mp h
    cases same
    exact Nat.le_of_lt (length_readString read)
  split at h
  · obtain ⟨n, -, same⟩ := Option.map_eq_some_iff.mp h
    cases same
    exact (List.dropWhile_suffix isNumeric).length_le
  · exact Nat.le_of_lt_succ (length_word? h)

/-- All tokens of a text; blanks may stand before each and after the last. -/
def readAll : List Char → Option (List Token)
  | [] => some []
  | c :: r =>
    if isBlank c then readAll r
    else
      match h : next? c r with
      | none => none
      | some (t, rest) =>
        have := length_next? h
        (readAll rest).map (t :: ·)
termination_by cs => cs.length

end Token
end ValueTypes.Json
