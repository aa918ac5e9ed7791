/-
  What is hashed tells what it stands for.

  Five kinds of records are packed into bytes and hashed: the leaves of exit trees, the leaves of the
  L1 info tree, nodes, the origins of tokens, and what decides the address of a contract. Each kind
  has its own layout of fields of fixed widths, and its own length. So the bytes tell the kind and
  the fields, and two records with one hash are the same record, or their bytes collide.

  * `RecordKind.widths`, `RecordKind.offset`: the layouts. `slice_preimage`: each field is in its
    place.
  * `HashedRecord`: a record of any kind; `HashedRecord.preimage_inj`: it is told by its bytes.
  * `HashedRecord.hash_eq_iff`: equal hashes.
  * `preimages_unambiguous`: all of this, and leaves and nodes in particular.

  No property of the hash is assumed.
-/
import Mathlib.Algebra.BigOperators.Group.List.Lemmas
import ExitBridge.ExitRoot.Basic
import ExitBridge.Proofs.Leaf
import ExitBridge.Proofs.Merkle.Path
import ExitBridge.WrappedTokens

namespace ExitBridge

/-! ## Records of one kind -/

theorem L1InfoLeaf.preimage_inj {a b : L1InfoLeaf} (h : a.preimage = b.preimage) : a = b := by
  obtain ⟨roots, timestamp⟩ := List.append_inj' h (by simp)
  obtain ⟨globalExitRoot, blockHash⟩ := List.append_inj' roots (by simp)
  cases a
  cases b
  simp only [L1InfoLeaf.mk.injEq]
  exact ⟨FixedBytes.ext globalExitRoot, FixedBytes.ext blockHash,
    UInt64.toNat_inj.1 (bigEndian_inj (UInt64.toNat_lt _) (UInt64.toNat_lt _) timestamp)⟩

theorem TokenOrigin.preimage_inj {a b : TokenOrigin} (h : a.preimage = b.preimage) : a = b := by
  obtain ⟨network, token⟩ := List.append_inj' h (by simp)
  cases a
  cases b
  simp only [TokenOrigin.mk.injEq]
  exact ⟨bigEndian_toNat_inj network, FixedBytes.ext token⟩

theorem Derivation.create2Preimage_inj {deployer deployer' : Address}
    {salt salt' initCodeHash initCodeHash' : Digest}
    (h : create2Preimage deployer salt initCodeHash =
      create2Preimage deployer' salt' initCodeHash') :
    deployer = deployer' ∧ salt = salt' ∧ initCodeHash = initCodeHash' := by
  obtain ⟨-, parts⟩ := List.cons.inj h
  obtain ⟨parts, initCodeHash⟩ := List.append_inj' parts (by simp)
  obtain ⟨deployer, salt⟩ := List.append_inj' parts (by simp)
  exact ⟨FixedBytes.ext deployer, FixedBytes.ext salt, FixedBytes.ext initCodeHash⟩

/-! ## Layouts -/

/-- The kinds of records that are packed into bytes and hashed. -/
inductive RecordKind where
  | leaf
  | l1InfoLeaf
  | node
  | tokenOrigin
  | contract
  deriving DecidableEq

namespace RecordKind

/-- The widths of a kind's fields, in their order. -/
def widths : RecordKind → List Nat
  | leaf => [1, 4, 20, 4, 20, 32, 32]
  | l1InfoLeaf => [32, 32, 8]
  | node => [32, 32]
  | tokenOrigin => [4, 20]
  | contract => [1, 20, 32, 32]

/-- Where a field begins. Behind the last field it is where the record ends. -/
def offset (k : RecordKind) (field : Nat) : Nat := (k.widths.take field).sum

/-- The number of bytes of a kind. -/
def size (k : RecordKind) : Nat := k.widths.sum

theorem size_inj {k k' : RecordKind} : k.size = k'.size ↔ k = k' := by
  cases k <;> cases k' <;> decide

end RecordKind

/-- A record that is hashed: a leaf of an exit tree, a leaf of the L1 info tree, the parent of two
    nodes, the origin of a token, or what decides the address of a contract. -/
inductive HashedRecord where
  | leaf (l : Leaf)
  | l1InfoLeaf (l : L1InfoLeaf)
  | node (left right : Digest)
  | tokenOrigin (o : TokenOrigin)
  | contract (deployer : Address) (salt initCodeHash : Digest)

namespace HashedRecord

def kind : HashedRecord → RecordKind
  | leaf _ => .leaf
  | l1InfoLeaf _ => .l1InfoLeaf
  | node _ _ => .node
  | tokenOrigin _ => .tokenOrigin
  | contract _ _ _ => .contract

/-- The packed fields. The bytes of a contract begin with a mark of their own. -/
def fields : HashedRecord → List Bytes
  | leaf l =>
    [[l.kind.toByte], bigEndian 4 l.originNetwork.toNat, l.originAddress.toList,
      bigEndian 4 l.destinationNetwork.toNat, l.destinationAddress.toList, l.amount.toBytes,
      l.metadataHash.toList]
  | l1InfoLeaf l => [l.globalExitRoot.toList, l.blockHash.toList, bigEndian 8 l.timestamp.toNat]
  | node left right => [left.toList, right.toList]
  | tokenOrigin o => [bigEndian 4 o.network.toNat, o.token.toList]
  | contract deployer salt initCodeHash =>
    [[0xff], deployer.toList, salt.toList, initCodeHash.toList]

/-- The bytes that are hashed. -/
def preimage : HashedRecord → Bytes
  | leaf l => l.preimage
  | l1InfoLeaf l => l.preimage
  | node left right => pairInput left right
  | tokenOrigin o => o.preimage
  | contract deployer salt initCodeHash => Derivation.create2Preimage deployer salt initCodeHash

/-- The hash that stands for the record. -/
def hash (H : NodeHasher) : HashedRecord → Digest
  | leaf l => l.hash H
  | l1InfoLeaf l => l.hash H
  | node left right => H.pair left right
  | tokenOrigin o => o.salt H
  | contract deployer salt initCodeHash =>
    H.hash (Derivation.create2Preimage deployer salt initCodeHash)

theorem hash_eq (H : NodeHasher) (r : HashedRecord) : r.hash H = H.hash r.preimage := by
  cases r <;> rfl

theorem map_length_fields (r : HashedRecord) : r.fields.map List.length = r.kind.widths := by
  cases r <;> simp [fields, kind, RecordKind.widths, Amount.toBytes]

theorem preimage_eq_flatten (r : HashedRecord) : r.preimage = r.fields.flatten := by
  cases r <;> simp [preimage, fields, Leaf.preimage, L1InfoLeaf.preimage, pairInput,
    TokenOrigin.preimage, Derivation.create2Preimage]

theorem length_preimage (r : HashedRecord) : r.preimage.length = r.kind.size := by
  rw [preimage_eq_flatten, List.length_flatten, map_length_fields, RecordKind.size]

theorem slice_preimage (r : HashedRecord) {i : Nat} (h : i < r.fields.length) :
    (r.preimage.take (r.kind.offset (i + 1))).drop (r.kind.offset i) = r.fields[i] := by
  rw [preimage_eq_flatten, RecordKind.offset, RecordKind.offset, ← map_length_fields]
  exact List.drop_take_succ_flatten_eq_getElem r.fields i h

/-- A record is told by its bytes: their number tells the kind, and the rest the fields. -/
theorem preimage_inj {r s : HashedRecord} : r.preimage = s.preimage ↔ r = s := by
  refine ⟨fun h => ?_, fun h => h ▸ rfl⟩
  have sameKind : r.kind = s.kind := by
    rw [← RecordKind.size_inj, ← length_preimage, ← length_preimage, h]
  -- with the kind settled, each kind has its own layout to be read
  cases r <;> cases s <;> cases sameKind
  case leaf.leaf => exact congrArg leaf (Leaf.preimage_inj h)
  case l1InfoLeaf.l1InfoLeaf => exact congrArg l1InfoLeaf (L1InfoLeaf.preimage_inj h)
  case node.node =>
    obtain ⟨rfl, rfl⟩ := pairInput_inj.1 h
    rfl
  case tokenOrigin.tokenOrigin => exact congrArg tokenOrigin (TokenOrigin.preimage_inj h)
  case contract.contract =>
    obtain ⟨rfl, rfl, rfl⟩ := Derivation.create2Preimage_inj h
    rfl

theorem hash_eq_iff {H : NodeHasher} {r s : HashedRecord} :
    r.hash H = s.hash H ↔ r = s ∨ H.Collide r.preimage s.preimage := by
  rw [hash_eq, hash_eq, NodeHasher.Collide, Ne, preimage_inj]
  constructor
  · intro same
    exact or_iff_not_imp_left.2 fun other => ⟨other, same⟩
  · rintro (rfl | ⟨-, same⟩)
    · rfl
    · exact same

/-- Contracts with one hash have one deployer, salt and init code, or something collides: the bytes
    of the contracts, or their init codes. -/
theorem contract_of_hash_eq {H : NodeHasher} {deployer deployer' : Address} {salt salt' : Digest}
    {initCode initCode' : Bytes}
    (same : (contract deployer salt (H.hash initCode)).hash H =
      (contract deployer' salt' (H.hash initCode')).hash H) :
    (deployer = deployer' ∧ salt = salt' ∧ (initCode = initCode' ∨ H.Collide initCode initCode')) ∨
      H.Collide (contract deployer salt (H.hash initCode)).preimage
        (contract deployer' salt' (H.hash initCode')).preimage := by
  refine (hash_eq_iff.1 same).imp_left fun one => ?_
  obtain ⟨rfl, rfl, codes⟩ := HashedRecord.contract.inj one
  exact ⟨rfl, rfl, or_iff_not_imp_left.2 fun other => ⟨other, codes⟩⟩

end HashedRecord

/-! ## All records -/

/-- **Packed bytes are unambiguous.** A leaf is told by its bytes, and so is a leaf of the L1 info
    tree. More generally, a record of any kind consists of its fields, each in its place; its length
    tells its kind, and its bytes tell the record. So two records have one hash only if they are the
    same, or their bytes are different and collide: leaves of different kinds, or a leaf and a
    node, never have one hash without such a collision. The address of a contract is taken from the
    hash of deployer, salt and the hash of the init code, so that here a collision may also be one
    of two init codes. -/
theorem preimages_unambiguous (H : NodeHasher) :
    (∀ a b : Leaf, a.preimage = b.preimage ↔ a = b) ∧
    (∀ a b : L1InfoLeaf, a.preimage = b.preimage ↔ a = b) ∧
    (∀ (r : HashedRecord) (i : Nat) (h : i < r.fields.length),
      (r.preimage.take (r.kind.offset (i + 1))).drop (r.kind.offset i) = r.fields[i]) ∧
    (∀ r s : HashedRecord, r.preimage.length = s.preimage.length ↔ r.kind = s.kind) ∧
    (∀ r s : HashedRecord, r.preimage = s.preimage ↔ r = s) ∧
    (∀ r s : HashedRecord, r.hash H = s.hash H ↔ r = s ∨ H.Collide r.preimage s.preimage) ∧
    (∀ a b : Leaf, a.kind ≠ b.kind → a.hash H = b.hash H → H.Collide a.preimage b.preimage) ∧
    (∀ (l : Leaf) (left right : Digest), l.hash H = H.pair left right →
      H.Collide l.preimage (pairInput left right)) ∧
    ∀ (deployer deployer' : Address) (salt salt' : Digest) (initCode initCode' : Bytes),
      let made := HashedRecord.contract deployer salt (H.hash initCode)
      let made' := HashedRecord.contract deployer' salt' (H.hash initCode')
      Derivation.create2 H deployer salt initCode = (made.hash H).lastTwenty ∧
      (made.hash H = made'.hash H →
        (deployer = deployer' ∧ salt = salt' ∧
          (initCode = initCode' ∨ H.Collide initCode initCode')) ∨
        H.Collide made.preimage made'.preimage) := by
  refine ⟨fun a b => ⟨Leaf.preimage_inj, fun h => h ▸ rfl⟩,
    fun a b => ⟨L1InfoLeaf.preimage_inj, fun h => h ▸ rfl⟩, fun r _ => r.slice_preimage,
    fun r s => ?_, fun _ _ => HashedRecord.preimage_inj, fun _ _ => HashedRecord.hash_eq_iff,
    fun a b other same => ?_, fun l left right same => ?_,
    fun _ _ _ _ _ _ => ⟨rfl, HashedRecord.contract_of_hash_eq⟩⟩
  · rw [HashedRecord.length_preimage, HashedRecord.length_preimage, RecordKind.size_inj]
  · have records : (HashedRecord.leaf a).hash H = (HashedRecord.leaf b).hash H := same
    refine (HashedRecord.hash_eq_iff.1 records).resolve_left fun one => other ?_
    rw [HashedRecord.leaf.inj one]
  · have records : (HashedRecord.leaf l).hash H = (HashedRecord.node left right).hash H := same
    exact (HashedRecord.hash_eq_iff.1 records).resolve_left nofun

example : [RecordKind.leaf, .l1InfoLeaf, .node, .tokenOrigin, .contract].map RecordKind.size =
    [113, 72, 64, 24, 85] := by decide

end ExitBridge
