/-
  Global indexes: where a leaf lies among all networks that feed a global exit root.

  A packed index is a 256-bit number: bit 64 is the mainnet flag, bits 32 to 63 are the rollup
  index, bits 0 to 31 the leaf index. Packed indexes with higher bits, or with the flag and a
  rollup index, are not canonical and are refused.

  * `GlobalIndex.pack`, `GlobalIndex.unpack`: to and from the packed form.
  * `rollupNetworkId`, `rollupIndexOf?`: rollup index `i` belongs to network `i + 1`.
-/
import ExitBridge.Error
import ExitBridge.Bytes.Fixed

namespace ExitBridge

/-- The place of a leaf among all networks. -/
structure GlobalIndex where
  mainnetFlag : Bool
  rollupIndex : UInt32
  leafIndex : UInt32
  deriving DecidableEq, Inhabited

namespace GlobalIndex

/-- A leaf of the mainnet. -/
def mainnet (leafIndex : UInt32) : GlobalIndex := ⟨true, 0, leafIndex⟩

/-- A leaf of a rollup. -/
def rollup (rollupIndex leafIndex : UInt32) : GlobalIndex := ⟨false, rollupIndex, leafIndex⟩

/-- The packed form. -/
def pack (g : GlobalIndex) : Amount :=
  BitVec.ofNat 256
    ((if g.mainnetFlag then 2 ^ 64 else 0) + g.rollupIndex.toNat * 2 ^ 32 + g.leafIndex.toNat)

/-- Reads a packed index, if it is canonical. -/
def unpack (v : Amount) : Except LedgerError GlobalIndex :=
  let flag := v.toNat.testBit 64
  let index : GlobalIndex := ⟨flag, UInt32.ofNat (v.toNat / 2 ^ 32), UInt32.ofNat v.toNat⟩
  if v.toNat / 2 ^ 65 ≠ 0 ∨ (flag ∧ index.rollupIndex ≠ 0) then .error .globalIndexInvalid
  else .ok index

end GlobalIndex

/-- The network of a rollup index: one more, unless that is no network id. -/
def rollupNetworkId (rollupIndex : UInt32) : Except LedgerError UInt32 :=
  if rollupIndex.toNat + 1 < 2 ^ 32 then .ok (rollupIndex + 1) else .error .globalIndexInvalid

/-- The rollup index of a network: one less, unless the network is zero. -/
def rollupIndexOf? (network : UInt32) : Option UInt32 :=
  if network = 0 then none else some (network - 1)

end ExitBridge
