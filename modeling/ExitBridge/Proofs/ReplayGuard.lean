/-
  The replay guard is a set of keys.

  * `ScopeKey.ofParts_inj`: a key tells its flag, its source network and its leaf index.
  * `ScopeKey.ext_word_bit`: different keys have different bits.
  * `ReplayGuard.isClaimed_mark`: marking a key marks that key and no other.
-/
import Mathlib.Tactic.Common
import ExitBridge.ReplayGuard

namespace ExitBridge

/-! ## Keys -/

namespace ScopeKey

theorem toNat_ofParts (flag : Bool) (network index : UInt32) :
    (ofParts flag network index).value.toNat =
      (if flag then 2 ^ 64 else 0) + network.toNat * 2 ^ 32 + index.toNat := by
  have hn := network.toNat_lt
  have hi := index.toNat_lt
  rw [ofParts, BitVec.toNat_ofNat, Nat.mod_eq_of_lt]
  split <;> omega

theorem ofParts_inj {flag flag' : Bool} {network network' index index' : UInt32} :
    ofParts flag network index = ofParts flag' network' index' ↔
      flag = flag' ∧ network = network' ∧ index = index' := by
  constructor
  · intro h
    have values := congrArg (fun k => k.value.toNat) h
    simp only [toNat_ofParts] at values
    have hn := network.toNat_lt
    have hn' := network'.toNat_lt
    have hi := index.toNat_lt
    have hi' := index'.toNat_lt
    have parts : flag = flag' ∧ network.toNat = network'.toNat ∧ index.toNat = index'.toNat := by
      cases flag <;> cases flag' <;> simp at values ⊢ <;> omega
    exact ⟨parts.1, UInt32.toNat_inj.1 parts.2.1, UInt32.toNat_inj.1 parts.2.2⟩
  · rintro ⟨rfl, rfl, rfl⟩
    rfl

/-- Word and bit make the key. -/
theorem ext_word_bit {k k' : ScopeKey} (word : k.word = k'.word) (bit : k.bit = k'.bit) :
    k = k' := by
  obtain ⟨v⟩ := k
  obtain ⟨v'⟩ := k'
  congr 1
  refine BitVec.eq_of_toNat_eq ?_
  simp only [ScopeKey.word, ScopeKey.bit] at word bit
  omega

theorem bit_lt (k : ScopeKey) : k.bit < 256 := Nat.mod_lt _ (by decide)

end ScopeKey

/-! ## Marks -/

namespace ReplayGuard

variable {g g' : ReplayGuard} {k : ScopeKey}

@[simp] theorem isClaimed_empty (k : ScopeKey) : empty.isClaimed k = false := by
  simp [empty, isClaimed]

theorem mark_eq_ok (h : g.mark k = .ok g') : g.isClaimed k = false ∧
    g' = ⟨g.words.insert k.word (g.words.getD k.word 0 ||| BitVec.twoPow 256 k.bit)⟩ := by
  rw [mark] at h
  split at h
  · cases h
  · rename_i free
    exact ⟨by simpa using free, (Except.ok.inj h).symm⟩

theorem exists_mark (free : g.isClaimed k = false) : ∃ g', g.mark k = .ok g' := by
  simp [mark, free]

theorem isClaimed_mark (h : g.mark k = .ok g') (k' : ScopeKey) :
    g'.isClaimed k' = true ↔ g.isClaimed k' = true ∨ k' = k := by
  obtain ⟨-, rfl⟩ := mark_eq_ok h
  simp only [isClaimed, Std.HashMap.getD_insert, beq_iff_eq]
  by_cases word : k.word = k'.word
  · rw [if_pos word, ← word, BitVec.getLsbD_or, BitVec.getLsbD_twoPow, Bool.or_eq_true]
    refine or_congr_right ?_
    simp only [k.bit_lt, decide_true, Bool.true_and, decide_eq_true_eq]
    constructor
    · exact fun bit => ScopeKey.ext_word_bit word.symm bit.symm
    · rintro rfl
      rfl
  · rw [if_neg word]
    constructor
    · exact .inl
    · rintro (marked | rfl)
      · exact marked
      · exact absurd rfl word

end ReplayGuard

end ExitBridge
