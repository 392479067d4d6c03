import ValueTypes.Value

namespace ValueTypes.Value

/-- Eight bytes, the lowest first. -/
def feedWord (n : Nat) : List UInt8 := (List.range 8).map fun i => UInt8.ofNat (n >>> (8 * i))

def feedText (s : String) : List UInt8 := s.toUTF8.toList ++ [0xff]

def feedNames (cs : List ClassName) : List UInt8 :=
  feedWord cs.length ++ cs.flatMap fun c => feedText c.name

def feedScalar : Value → List UInt8
  | .bool b => [if b then 1 else 0]
  | .int n => feedWord n.toUInt64.toNat
  | .float x => feedWord x.bits.toNat
  | .str s => feedText s
  | .sym s => feedText s.name
  | _ => []

mutual

def feed : Value → List UInt8
  | .array vs => 6 :: feedWord vs.length ++ feedItems vs
  | .hash es => 7 :: feedWord es.length ++ feedEntries es
  | .object c as fs =>
    8 :: feedText c.name ++ feedNames as ++ feedWord fs.length ++ feedFields fs
  | v => UInt8.ofNat v.rank :: feedScalar v

def feedItems : List Value → List UInt8
  | [] => []
  | v :: vs => feed v ++ feedItems vs

def feedEntries : List (Value × Value) → List UInt8
  | [] => []
  | (k, v) :: es => feed k ++ feed v ++ feedEntries es

def feedFields : List (String × Value) → List UInt8
  | [] => []
  | (n, v) :: fs => feedText n ++ feed v ++ feedFields fs

end

end ValueTypes.Value
