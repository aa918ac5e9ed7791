/-
  Token metadata: name, symbol and decimals.

  The packed form is a head of three words of 32 bytes (where the name starts, where the symbol
  starts, the decimals) and two tails, each a word with a byte length and the text padded with
  zeros to a multiple of 32.

  * `TokenMetadata.encode`, `TokenMetadata.decode?`: to and from the packed form. Reading follows
    the offsets of the head, so it accepts more than what writing produces.
-/
import ExitBridge.Bytes.BigEndian

namespace ExitBridge

/-- Name, symbol and decimals of a token. -/
structure TokenMetadata where
  name : String
  symbol : String
  decimals : UInt8
  deriving DecidableEq, Inhabited

namespace TokenMetadata

/-- The least multiple of 32 that is at least `n`. -/
def padded (n : Nat) : Nat :=
  (n + 31) / 32 * 32

/-- A number in a word of 32 bytes. -/
def word (n : Nat) : Bytes :=
  bigEndian 32 n

/-- The UTF-8 bytes of a text. -/
def utf8 (s : String) : Bytes :=
  s.toUTF8.toList

/-- A text as a length word and its bytes, padded. -/
def tail (bs : Bytes) : Bytes :=
  word bs.length ++ bs ++ List.replicate (padded bs.length - bs.length) 0

/-- The packed form. -/
def encode (m : TokenMetadata) : Bytes :=
  let name := tail (utf8 m.name)
  word 96 ++ word (96 + name.length) ++ word m.decimals.toNat ++ name ++ tail (utf8 m.symbol)

/-- `length` bytes from `start` on, if all of them are there. -/
def slice? (data : Bytes) (start length : Nat) : Option Bytes :=
  if start + length ≤ data.length then some ((data.drop start).take length) else none

/-- The number in the word at a position. What has more than 64 bits is no offset and no length. -/
def readWord? (data : Bytes) (start : Nat) : Option Nat :=
  ((slice? data start 32).map ofBigEndian).filter (· < 2 ^ 64)

/-- The text behind the bytes, if they are UTF-8. -/
def text? (bs : Bytes) : Option String :=
  String.fromUTF8? ⟨bs.toArray⟩

/-- The text whose length word is at a position. -/
def readText? (data : Bytes) (start : Nat) : Option String := do
  let length ← readWord? data start
  text? (← slice? data (start + 32) length)

/-- Reads the packed form. -/
def decode? (data : Bytes) : Option TokenMetadata := do
  let nameStart ← readWord? data 0
  let symbolStart ← readWord? data 32
  let decimals ← readWord? data 64
  if decimals ≤ 255 then
    return ⟨← readText? data nameStart, ← readText? data symbolStart, UInt8.ofNat decimals⟩
  else none

end TokenMetadata

end ExitBridge
