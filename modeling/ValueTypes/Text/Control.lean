import ValueTypes.Text.Quoted

namespace ValueTypes.Text

/-- Bell, backspace, form feed, escape and delete. -/
def isShortOrder (c : Char) : Bool := ['\x07', '\x08', '\x0c', '\x1b', '\x7f'].contains c

/-- The controls with an eighth bit, each an escape sequence by itself. -/
def isLongOrder (c : Char) : Bool := 0x80 ≤ c.toNat && c.toNat ≤ 0x9f

/-- Line breaks, tabs and the other controls stay. -/
def disarm (c : Char) : List Char :=
  if isShortOrder c then ['\\', 'x', Nat.digitChar (c.toNat / 16), Nat.digitChar (c.toNat % 16)]
  else if isLongOrder c then byNumber c
  else [c]

def harmless (s : String) : String := String.ofList (s.toList.flatMap disarm)

end ValueTypes.Text
