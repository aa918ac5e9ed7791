/-
  The text of addresses.

  * `Address.lower a`: `0x` and forty lower-case digits.
  * `Address.checksummed a`: the same with a checksum in the case of its letters. A letter is upper
    case when the digit in its place in the Keccak-256 digest of the lower-case text is at least 8.
-/
import ExitBridge.Keccak
import ExitBridge.Bytes.Hex

namespace ExitBridge.Address

/-- `0x` and forty lower-case digits. -/
def lower (a : Address) : String :=
  Hex.text a.toList

/-- The sixteenths of a byte string: the high and the low half of each byte. -/
def halves (bs : Bytes) : List Nat :=
  bs.flatMap fun b => [b.toNat / 16, b.toNat % 16]

/-- The text of an address in messages. -/
def checksummed (a : Address) : String :=
  let digits := Hex.encode a.toList
  let sum := halves (keccak256 (String.ofList digits).toUTF8.toList).toList
  String.ofList ('0' :: 'x' :: List.zipWith (fun c v => if 8 ≤ v then c.toUpper else c) digits sum)

end ExitBridge.Address
