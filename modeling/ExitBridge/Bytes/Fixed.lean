/-
  Byte strings of a fixed length, and the words the bridge is made of.

  * `FixedBytes n`: exactly `n` bytes; `ofBytes?` checks the length of a byte string.
  * `Digest`: 32 bytes, the value of the node hash. The empty leaf is `Digest.zero`.
  * `Address`: 20 bytes. The zero address stands for the native token.
  * `Amount`: a 256-bit number, whose arithmetic wraps.
-/
import ExitBridge.Bytes.BigEndian

namespace ExitBridge

/-- A byte string of length `n`. -/
@[ext] structure FixedBytes (n : Nat) where
  toList : Bytes
  length_toList : toList.length = n
  deriving DecidableEq

attribute [simp] FixedBytes.length_toList

namespace FixedBytes

variable {n : Nat}

instance : Hashable (FixedBytes n) := ⟨fun b => hash b.toList⟩

/-- The byte string as a word, if it has the right length. -/
def ofBytes? (bs : Bytes) : Option (FixedBytes n) :=
  if h : bs.length = n then some ⟨bs, h⟩ else none

/-- The word whose bytes are all zero. -/
def zero : FixedBytes n := ⟨List.replicate n 0, List.length_replicate⟩

instance : Inhabited (FixedBytes n) := ⟨zero⟩

@[simp] theorem ofBytes?_toList (b : FixedBytes n) : ofBytes? b.toList = some b := by
  simp [ofBytes?]

end FixedBytes

/-- A value of the node hash. -/
abbrev Digest := FixedBytes 32

/-- An account, a token or a contract. -/
abbrev Address := FixedBytes 20

/-- A token amount: a 256-bit number, whose arithmetic wraps. -/
abbrev Amount := BitVec 256

/-- The empty leaf, also the root of a network that has published nothing. -/
def Digest.zero : Digest := FixedBytes.zero

/-- The address of the native token. -/
def Address.zero : Address := FixedBytes.zero

/-- The last twenty bytes of a digest. -/
def Digest.lastTwenty (d : Digest) : Address :=
  ⟨d.toList.drop 12, by simp⟩

/-- The first twenty bytes of a digest. -/
def Digest.firstTwenty (d : Digest) : Address :=
  ⟨d.toList.take 20, by simp⟩

/-- An amount in 32 bytes, most significant byte first. -/
def Amount.toBytes (a : Amount) : Bytes :=
  bigEndian 32 a.toNat

/-- The largest amount. -/
def Amount.max : Amount := BitVec.allOnes 256

/-- Sum that stops at the largest amount. -/
def Amount.saturatingAdd (a b : Amount) : Amount :=
  if a.toNat + b.toNat < 2 ^ 256 then a + b else Amount.max

end ExitBridge
