/-
  Which deposits have been claimed.

  A claim is identified by a 65-bit key: mainnet flag, source network and leaf index. Keys are kept
  as a bitmap in words of 256 bits: the low eight bits of a key are its place in a word, the others
  are the word's number. Bits are only ever set.

  * `ScopeKey.ofParts`, `ScopeKey.word`, `ScopeKey.bit`.
  * `ReplayGuard.isClaimed`, `ReplayGuard.mark`: read and set a key's bit.
-/
import ExitBridge.Bytes.BigEndian
import ExitBridge.Error
import Std.Data.HashMap

namespace ExitBridge

/-- The identity of a claim. -/
structure ScopeKey where
  value : BitVec 128
  deriving DecidableEq, Inhabited

namespace ScopeKey

/-- The key of a leaf of a source network. -/
def ofParts (mainnetFlag : Bool) (sourceNetwork leafIndex : UInt32) : ScopeKey :=
  ⟨BitVec.ofNat 128
    ((if mainnetFlag then 2 ^ 64 else 0) + sourceNetwork.toNat * 2 ^ 32 + leafIndex.toNat)⟩

/-- The number of the key's word. -/
def word (k : ScopeKey) : Nat := k.value.toNat / 256

/-- The key's place in its word. -/
def bit (k : ScopeKey) : Nat := k.value.toNat % 256

end ScopeKey

/-- The bitmap of claimed keys, by word number. -/
structure ReplayGuard where
  words : Std.HashMap Nat (BitVec 256)
  deriving Inhabited

namespace ReplayGuard

/-- Nothing is claimed. -/
def empty : ReplayGuard := ⟨∅⟩

/-- Has the key been marked? -/
def isClaimed (g : ReplayGuard) (k : ScopeKey) : Bool :=
  (g.words.getD k.word 0).getLsbD k.bit

/-- Marks a key, once. -/
def mark (g : ReplayGuard) (k : ScopeKey) : Except LedgerError ReplayGuard :=
  if g.isClaimed k then .error .alreadyClaimed
  else .ok ⟨g.words.insert k.word (g.words.getD k.word 0 ||| BitVec.twoPow 256 k.bit)⟩

/-- The number of words in use. -/
def wordCount (g : ReplayGuard) : Nat := g.words.size

end ReplayGuard

end ExitBridge
