/-
  Keccak-256, the hash whose digests name leaves and nodes.

  The state is five planes of five 64-bit lanes. A round mixes columns (`theta`), rotates and moves
  lanes (`rhoPi`), combines the lanes of a plane (`Plane.chi`) and adds a round constant. A message
  is padded with `0x01 … 0x80` to blocks of 136 bytes, which are added to the state one by one; the
  first 32 bytes of the state are the digest.

  * `Keccak.permute`: the 24 rounds.
  * `keccak256`: the digest of a byte string.
-/
import ExitBridge.Bytes.Fixed

namespace ExitBridge

namespace Keccak

/-! ## Planes -/

/-- The five lanes of one plane of the state. -/
structure Plane where
  x0 : UInt64
  x1 : UInt64
  x2 : UInt64
  x3 : UInt64
  x4 : UInt64

namespace Plane

/-- Lane by lane addition. -/
def add (a b : Plane) : Plane :=
  ⟨a.x0 ^^^ b.x0, a.x1 ^^^ b.x1, a.x2 ^^^ b.x2, a.x3 ^^^ b.x3, a.x4 ^^^ b.x4⟩

/-- Each lane is changed where its right neighbour is clear and the one after that is set. -/
def chi (a : Plane) : Plane :=
  ⟨a.x0 ^^^ (~~~a.x1 &&& a.x2), a.x1 ^^^ (~~~a.x2 &&& a.x3), a.x2 ^^^ (~~~a.x3 &&& a.x4),
    a.x3 ^^^ (~~~a.x4 &&& a.x0), a.x4 ^^^ (~~~a.x0 &&& a.x1)⟩

end Plane

/-- Rotation towards the high end. -/
def rotate (a : UInt64) (n : UInt64) : UInt64 :=
  (a <<< n) ||| (a >>> (64 - n))

/-! ## State -/

/-- The 1600-bit state, plane by plane. -/
structure State where
  y0 : Plane
  y1 : Plane
  y2 : Plane
  y3 : Plane
  y4 : Plane

namespace State

/-- The state of all zero bits. -/
def zero : State :=
  let p : Plane := ⟨0, 0, 0, 0, 0⟩
  ⟨p, p, p, p, p⟩

/-- Plane by plane addition. -/
def add (s t : State) : State :=
  ⟨s.y0.add t.y0, s.y1.add t.y1, s.y2.add t.y2, s.y3.add t.y3, s.y4.add t.y4⟩

/-- Every lane takes the parities of the two neighbouring columns. -/
def theta (s : State) : State :=
  let c := (((s.y0.add s.y1).add s.y2).add s.y3).add s.y4
  let d : Plane :=
    ⟨c.x4 ^^^ rotate c.x1 1, c.x0 ^^^ rotate c.x2 1, c.x1 ^^^ rotate c.x3 1,
      c.x2 ^^^ rotate c.x4 1, c.x3 ^^^ rotate c.x0 1⟩
  s.add ⟨d, d, d, d, d⟩

/-- Every lane is rotated by an amount of its own and moved to another plane. -/
def rhoPi (s : State) : State :=
  ⟨⟨s.y0.x0, rotate s.y1.x1 44, rotate s.y2.x2 43, rotate s.y3.x3 21, rotate s.y4.x4 14⟩,
    ⟨rotate s.y0.x3 28, rotate s.y1.x4 20, rotate s.y2.x0 3, rotate s.y3.x1 45,
      rotate s.y4.x2 61⟩,
    ⟨rotate s.y0.x1 1, rotate s.y1.x2 6, rotate s.y2.x3 25, rotate s.y3.x4 8, rotate s.y4.x0 18⟩,
    ⟨rotate s.y0.x4 27, rotate s.y1.x0 36, rotate s.y2.x1 10, rotate s.y3.x2 15,
      rotate s.y4.x3 56⟩,
    ⟨rotate s.y0.x2 62, rotate s.y1.x3 55, rotate s.y2.x4 39, rotate s.y3.x0 41,
      rotate s.y4.x1 2⟩⟩

/-- Combination within each plane. -/
def chi (s : State) : State :=
  ⟨s.y0.chi, s.y1.chi, s.y2.chi, s.y3.chi, s.y4.chi⟩

/-- Addition of a round constant to the first lane. -/
def iota (s : State) (c : UInt64) : State :=
  { s with y0 := { s.y0 with x0 := s.y0.x0 ^^^ c } }

end State

/-- The constants of the 24 rounds. -/
def roundConstants : List UInt64 :=
  [0x0000000000000001, 0x0000000000008082, 0x800000000000808A, 0x8000000080008000,
    0x000000000000808B, 0x0000000080000001, 0x8000000080008081, 0x8000000000008009,
    0x000000000000008A, 0x0000000000000088, 0x0000000080008009, 0x000000008000000A,
    0x000000008000808B, 0x800000000000008B, 0x8000000000008089, 0x8000000000008003,
    0x8000000000008002, 0x8000000000000080, 0x000000000000800A, 0x800000008000000A,
    0x8000000080008081, 0x8000000000008080, 0x0000000080000001, 0x8000000080008008]

/-- The 24 rounds. -/
def permute (s : State) : State :=
  roundConstants.foldl (fun s c => s.theta.rhoPi.chi.iota c) s

/-! ## Sponge -/

/-- Bytes of a block: the part of the state that a message reaches. -/
def rate : Nat := 136

/-- The lane behind up to eight bytes, least significant byte first. -/
def lane (bs : Bytes) : UInt64 :=
  bs.foldr (fun b n => n <<< 8 ||| b.toUInt64) 0

/-- A block as a state; lanes beyond the block are zero. -/
def blockState (block : Bytes) : State :=
  let laneAt (i : Nat) : UInt64 := lane ((block.drop (8 * i)).take 8)
  let plane (y : Nat) : Plane :=
    ⟨laneAt (5 * y), laneAt (5 * y + 1), laneAt (5 * y + 2), laneAt (5 * y + 3),
      laneAt (5 * y + 4)⟩
  ⟨plane 0, plane 1, plane 2, plane 3, plane 4⟩

/-- The last block: a mark after the message, and a mark in the block's last byte. -/
def pad (last : Bytes) : Bytes :=
  if last.length = rate - 1 then last ++ [0x81]
  else last ++ 0x01 :: (List.replicate (rate - 2 - last.length) 0 ++ [0x80])

/-- The state after a message: each block is added, then the state is permuted. -/
def absorb (s : State) (message : Bytes) : State :=
  if message.length < rate then permute (s.add (blockState (pad message)))
  else absorb (permute (s.add (blockState (message.take rate)))) (message.drop rate)
termination_by message.length
decreasing_by simp_all [rate]; omega

/-- The eight bytes of a lane, least significant byte first. -/
def laneBytes (l : UInt64) : Bytes :=
  (List.range 8).map fun i => (l >>> (8 * UInt64.ofNat i)).toUInt8

end Keccak

/-- The Keccak-256 digest of a byte string. -/
def keccak256 (message : Bytes) : Digest :=
  let s := Keccak.absorb .zero message
  ⟨Keccak.laneBytes s.y0.x0 ++ Keccak.laneBytes s.y0.x1 ++ Keccak.laneBytes s.y0.x2 ++
    Keccak.laneBytes s.y0.x3, by simp [Keccak.laneBytes]⟩

end ExitBridge
