/-
  Addresses in settings.

  The text must be exact: the mark `0x` and forty digits of either case, between blanks that do not
  count.

  * `Address.ofSetting`: the address of a text.
  * `AddressError`: why a text is no address; `AddressError.message` is the wording.
-/
import ExitBridge.Bytes.Fixed
import ExitBridge.Bytes.Hex
import ExitBridge.Text.Blank
import ExitBridge.Text.Quoted

namespace ExitBridge

/-- Why a text is no address. -/
inductive AddressError where
  /-- It is not the mark with forty bytes behind it. -/
  | shape (text : String)
  /-- The byte at a position behind the mark is no digit. -/
  | digit (text : String) (byte : UInt8) (position : Nat)
  deriving DecidableEq, Inhabited

namespace AddressError

/-- The wording of an error; a byte is shown as the character with its code point. -/
def message : AddressError → String
  | shape text => s!"Expected 0x followed by 40 hex characters, got {text}"
  | digit text byte position =>
    s!"Invalid address {text}: invalid character " ++
      s!"{Text.quotedChar (Char.ofNat byte.toNat)} at position {position}"

end AddressError

namespace Address

/-- The address that forty bytes spell, or the first byte that is no digit. -/
def ofDigitBytes (text : String) (digits : Bytes) : Except AddressError Address :=
  match (Hex.decode? (digits.map fun b => Char.ofNat b.toNat)).bind FixedBytes.ofBytes? with
  | some a => .ok a
  | none =>
    let position := digits.findIdx fun b => (Hex.valueOfByte? b).isNone
    .error (.digit text (digits.getD position 0) position)

/-- The address of a setting's text. -/
def ofSetting (raw : String) : Except AddressError Address :=
  let text := String.ofList (Text.trim raw.toList)
  match text.toUTF8.toList with
  | 0x30 :: 0x78 :: digits =>
    if digits.length = 40 then ofDigitBytes text digits else .error (.shape text)
  | _ => .error (.shape text)

end Address

end ExitBridge
