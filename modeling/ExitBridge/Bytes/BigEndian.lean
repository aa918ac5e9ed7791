/-
  Byte strings and their big-endian numbers.

  * `Bytes`: byte strings of any length.
  * `bigEndian k n`: the number `n` in `k` bytes, most significant byte first.
  * `ofBigEndian bs`: the number a byte string stands for.
  * `ofBigEndian_bigEndian`: reading back what was written gives the number modulo `256 ^ k`.
-/

namespace ExitBridge

/-- A power of numbers is the core library's, also where a larger library is loaded that would read
`2 ^ 32` through its monoids. -/
@[default_instance 20000]
instance powNat : Pow Nat Nat := instPowNat

/-- A byte string of any length. -/
abbrev Bytes := List UInt8

/-- The low `k` bytes of a number, most significant byte first. -/
def bigEndian : Nat → Nat → Bytes
  | 0, _ => []
  | k + 1, n => UInt8.ofNat (n / 256 ^ k) :: bigEndian k n

/-- The number whose big-endian bytes these are. -/
def ofBigEndian (bs : Bytes) : Nat :=
  bs.foldl (fun n b => n * 256 + b.toNat) 0

@[simp] theorem length_bigEndian (k n : Nat) : (bigEndian k n).length = k := by
  induction k with
  | zero => rfl
  | succ k ih => simp [bigEndian, ih]

theorem foldl_bigEndian (k n m : Nat) :
    (bigEndian k n).foldl (fun n b => n * 256 + b.toNat) m = m * 256 ^ k + n % 256 ^ k := by
  induction k generalizing m with
  | zero => simp [bigEndian, Nat.mod_one]
  | succ k ih =>
    have hmod : n % 256 ^ (k + 1) = 256 ^ k * (n / 256 ^ k % 256) + n % 256 ^ k := by
      rw [Nat.pow_succ, Nat.mod_mul, Nat.add_comm]
    have hpow : m * 256 ^ (k + 1) = m * 256 * 256 ^ k := by
      rw [Nat.pow_succ, Nat.mul_assoc, Nat.mul_comm 256]
    simp only [bigEndian, List.foldl_cons, ih, UInt8.toNat_ofNat', hmod, hpow]
    rw [Nat.add_mul, Nat.mul_comm (256 ^ k), Nat.add_assoc]

theorem ofBigEndian_bigEndian (k n : Nat) : ofBigEndian (bigEndian k n) = n % 256 ^ k := by
  simp [ofBigEndian, foldl_bigEndian]

end ExitBridge
