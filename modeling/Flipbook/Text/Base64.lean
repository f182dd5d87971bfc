/-!
# Bytes in base 64

Four characters stand for three bytes.  Characters that are no digits are left out, and equals signs
end a text whose last group has two or three digits.
-/

namespace Flipbook.Text

/-- The value of a digit in base 64. -/
def base64Digit? (c : Char) : Option Nat :=
  if 'A' ≤ c ∧ c ≤ 'Z' then some (c.toNat - 'A'.toNat)
  else if 'a' ≤ c ∧ c ≤ 'z' then some (c.toNat - 'a'.toNat + 26)
  else if c.isDigit then some (c.toNat - '0'.toNat + 52)
  else if c == '+' then some 62
  else if c == '/' then some 63
  else none

/-- The byte that a digit completes: `place` is its place in its group, `held` what is left of the
digit before it. -/
def base64Byte : (place held digit : Nat) → List UInt8
  | 0, _, _ => []
  | 1, held, d => [UInt8.ofNat (held * 4 + d / 16)]
  | 2, held, d => [UInt8.ofNat (held * 16 + d / 4)]
  | _, held, d => [UInt8.ofNat (held * 64 + d)]

/-- What is left of a digit for the next byte. -/
def base64Held : (place digit : Nat) → Nat
  | 0, d => d
  | 1, d => d % 16
  | 2, d => d % 4
  | _, _ => 0

/-- The bytes of a text from a place in a group on, after `pads` equals signs. -/
def base64From (place held pads : Nat) : List Char → Option (List UInt8)
  | [] => if place = 0 then some [] else none
  | c :: cs =>
    if c == '=' then
      if 2 ≤ place ∧ 4 ≤ place + pads + 1 then some [] else base64From place held (pads + 1) cs
    else match base64Digit? c with
      | none => base64From place held pads cs
      | some d =>
        (base64From ((place + 1) % 4) (base64Held place d) 0 cs).map (base64Byte place held d ++ ·)

/-- The bytes that a text of ASCII characters stands for. -/
def ofBase64? (text : String) : Option (List UInt8) :=
  if text.toList.all fun c => c.toNat < 128 then base64From 0 0 0 text.toList else none

end Flipbook.Text
