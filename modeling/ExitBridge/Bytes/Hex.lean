/-
  Hexadecimal text of byte strings.

  * `Hex.encode bs`: two lower-case digits per byte.
  * `Hex.decode? cs`: the bytes behind an even number of digits of either case.
  * `Hex.decode?_encode`: what was written reads back.
  * `Hex.ofNat n`: the fewest lower-case digits of a number, `0` for zero.
-/
import ExitBridge.Bytes.BigEndian

namespace ExitBridge.Hex

/-- The lower-case digit of a value below sixteen. -/
def digit (v : Nat) : Char :=
  if v < 10 then Char.ofNat (48 + v) else Char.ofNat (87 + v)

/-- The value of a digit of either case. -/
def value? (c : Char) : Option Nat :=
  if '0' ≤ c ∧ c ≤ '9' then some (c.toNat - 48)
  else if 'a' ≤ c ∧ c ≤ 'f' then some (c.toNat - 87)
  else if 'A' ≤ c ∧ c ≤ 'F' then some (c.toNat - 55)
  else none

/-- The value of a byte that is a digit. -/
def valueOfByte? (b : UInt8) : Option Nat := value? (Char.ofNat b.toNat)

/-- Two lower-case digits per byte. -/
def encode (bs : Bytes) : List Char :=
  bs.flatMap fun b => [digit (b.toNat / 16), digit (b.toNat % 16)]

/-- The bytes behind an even number of digits. -/
def decode? : List Char → Option Bytes
  | [] => some []
  | [_] => none
  | c :: d :: rest => do
    let high ← value? c
    let low ← value? d
    return UInt8.ofNat (high * 16 + low) :: (← decode? rest)

/-- Digits with the mark `0x` in front. -/
def text (bs : Bytes) : String :=
  String.ofList ('0' :: 'x' :: encode bs)

/-- The fewest lower-case digits of a number, `0` for zero. -/
def ofNat (n : Nat) : List Char :=
  Nat.toDigits 16 n

theorem value?_digit {v : Nat} (h : v < 16) : value? (digit v) = some v := by
  have all : ∀ v : Fin 16, value? (digit v) = some v.val := by decide
  exact all ⟨v, h⟩

@[simp] theorem decode?_encode (bs : Bytes) : decode? (encode bs) = some bs := by
  induction bs with
  | nil => rfl
  | cons b bs ih =>
    have hb : b.toNat < 256 := b.toNat_lt
    have hv : UInt8.ofNat (b.toNat / 16 * 16 + b.toNat % 16) = b := by
      rw [Nat.div_add_mod' b.toNat 16]
      exact UInt8.ofNat_toNat
    have step : encode (b :: bs) = digit (b.toNat / 16) :: digit (b.toNat % 16) :: encode bs := rfl
    rw [step]
    simp only [decode?, value?_digit (show b.toNat / 16 < 16 by omega),
      value?_digit (show b.toNat % 16 < 16 by omega), ih, Option.bind_eq_bind, Option.bind_some, hv]
    rfl

@[simp] theorem length_encode (bs : Bytes) : (encode bs).length = 2 * bs.length := by
  induction bs with
  | nil => rfl
  | cons b bs ih => simp_all [encode]; omega

end ExitBridge.Hex
