/-
  Claims as they are submitted, with a packed global index.

  Besides the index a request carries what the claim does, so it is the claim that its index allows:
  a number that is no packed form of an index makes no claim, and no two requests make the same
  one.

  * `ClaimRequest.toClaim_of_canonical`, `ClaimRequest.toClaim_of_not_canonical`: which requests
    make a claim.
  * `packed_claims_lossless`: indexes and requests, both ways.
-/
import ExitBridge.Node.Messages
import ExitBridge.Proofs.GlobalIndex

namespace ExitBridge

open GlobalIndex

namespace ClaimRequest

variable {r : ClaimRequest}

theorem toClaim_of_canonical (canonical : HasCanonicalBits r.globalIndex) :
    ∃ c, r.toClaim = .ok c ∧ ofClaim c = r := by
  obtain ⟨low, -⟩ := hasCanonicalBits_iff.1 canonical
  rw [toClaim, unpack_of_canonical canonical]
  refine ⟨_, rfl, ?_⟩
  simp only [ofClaim, pack_parts low]

theorem toClaim_of_not_canonical (other : ¬HasCanonicalBits r.globalIndex) :
    r.toClaim = .error .globalIndexInvalid := by
  rw [toClaim, unpack_of_not_canonical other]
  rfl

theorem toClaim_ofClaim {c : Claim} (canonical : c.globalIndex.IsCanonical) :
    (ofClaim c).toClaim = .ok c := by
  have read : unpack (ofClaim c).globalIndex = .ok c.globalIndex := by
    rw [ofClaim, unpack_of_canonical (hasCanonicalBits_pack.2 canonical), parts_pack]
  rw [toClaim, read]
  rfl

end ClaimRequest

/-- **Packed claims lose nothing, and none has two packed forms.** A number is read as a global
    index exactly if it has no bits above the flag, and beside the flag none of a rollup index; it
    is then the packed form of that index. An index reads back from its packed form unless it has
    both the flag and a rollup index; then it is refused. So a request that makes a claim is the
    request of that claim, and a claim reads back from its request exactly if its index does. -/
theorem packed_claims_lossless :
    (∀ v : Amount,
      (HasCanonicalBits v → ∃ g, unpack v = .ok g ∧ g.pack = v) ∧
      (¬HasCanonicalBits v → unpack v = .error .globalIndexInvalid)) ∧
    (∀ g : GlobalIndex,
      unpack g.pack = if g.IsCanonical then .ok g else .error .globalIndexInvalid) ∧
    (∀ r : ClaimRequest,
      (HasCanonicalBits r.globalIndex → ∃ c, r.toClaim = .ok c ∧ ClaimRequest.ofClaim c = r) ∧
      (¬HasCanonicalBits r.globalIndex → r.toClaim = .error .globalIndexInvalid)) ∧
    ∀ c : Claim, (ClaimRequest.ofClaim c).toClaim =
      if c.globalIndex.IsCanonical then .ok c else .error .globalIndexInvalid := by
  refine ⟨fun v => ⟨fun canonical => ?_, unpack_of_not_canonical⟩, fun g => ?_,
    fun r => ⟨ClaimRequest.toClaim_of_canonical, ClaimRequest.toClaim_of_not_canonical⟩,
    fun c => ?_⟩
  · obtain ⟨low, -⟩ := hasCanonicalBits_iff.1 canonical
    exact ⟨_, unpack_of_canonical canonical, pack_parts low⟩
  · split
    · rename_i canonical
      rw [unpack_of_canonical (hasCanonicalBits_pack.2 canonical), parts_pack]
    · rename_i other
      exact unpack_of_not_canonical (mt hasCanonicalBits_pack.1 other)
  · split
    · rename_i canonical
      exact ClaimRequest.toClaim_ofClaim canonical
    · rename_i other
      exact ClaimRequest.toClaim_of_not_canonical (mt hasCanonicalBits_pack.1 other)

end ExitBridge
