namespace ValueTypes.Text

def numeral (n : Int) : String :=
  String.ofList (if n < 0 then '-' :: Nat.toDigits 10 n.natAbs else Nat.toDigits 10 n.natAbs)

def number (ds : List Char) : Nat := Nat.ofDigitChars 10 ds 0

end ValueTypes.Text
