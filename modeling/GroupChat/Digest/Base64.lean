/-!
# Base64

Bytes written with sixty-four signs: three bytes become four signs, and the last group is filled up
with equality signs.

## Main definitions

- `base64Sign`: the sign of a six-bit number.
- `base64`: the signs of a byte string.
-/

namespace GroupChat.Digest

/-- The sign of the number `n` below sixty-four. -/
def base64Sign (n : Nat) : Char :=
  if n < 26 then Char.ofNat ('A'.toNat + n)
  else if n < 52 then Char.ofNat ('a'.toNat + (n - 26))
  else if n < 62 then Char.ofNat ('0'.toNat + (n - 52))
  else if n = 62 then '+'
  else '/'

/-- The signs of a byte string, by `base64Sign`, filled up to a multiple of four. -/
def base64 : List UInt8 → List Char
  | [] => []
  | [x] =>
    let n := x.toNat * 16
    [base64Sign (n / 64), base64Sign (n % 64), '=', '=']
  | [x, y] =>
    let n := (x.toNat * 256 + y.toNat) * 4
    [base64Sign (n / 4096), base64Sign (n / 64 % 64), base64Sign (n % 64), '=']
  | x :: y :: z :: rest =>
    let n := (x.toNat * 256 + y.toNat) * 256 + z.toNat
    base64Sign (n / 262144) :: base64Sign (n / 4096 % 64) :: base64Sign (n / 64 % 64)
      :: base64Sign (n % 64) :: base64 rest

end GroupChat.Digest
