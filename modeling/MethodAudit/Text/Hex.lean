/-!
Hexadecimal digits and the characters whose codes they give.
-/

namespace MethodAudit.Text

def hexDigit? (c : Char) : Option Nat :=
  if '0' ≤ c && c ≤ '9' then some (c.toNat - '0'.toNat)
  else if 'a' ≤ c && c ≤ 'f' then some (c.toNat - 'a'.toNat + 10)
  else if 'A' ≤ c && c ≤ 'F' then some (c.toNat - 'A'.toNat + 10)
  else none

def charOfCode? (n : Nat) : Option Char :=
  if n < 0xd800 || (0xdfff < n && n < 0x110000) then some (Char.ofNat n) else none

/-- The character whose code is given by hexadecimal digits. -/
def charOfHex? (digits : List Char) : Option Char := do
  if digits.isEmpty then failure
  let values ← digits.mapM hexDigit?
  charOfCode? (values.foldl (fun n d => 16 * n + d) 0)

end MethodAudit.Text
