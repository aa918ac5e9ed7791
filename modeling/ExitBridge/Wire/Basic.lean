/-
  How values are written as JSON and read again.

  * `Wire`: a type with a form on the wire; `Members`: the members of an object.
  * Byte strings are hexadecimal text with the mark `0x`, or on reading also a list of bytes. Fixed
    words have an exact length; in a list one value that is no byte may follow their bytes.
  * Amounts are minimal hexadecimal text; on reading also a 64-bit number, or digits to base 16, 10,
    8 or 2. Other integers are numbers within their range.
  * `Members.required`, `Members.optional`, `Members.withDefault`: the value under a name. A name
    that is given twice is an error.
  * `WireRecord`: a type written as an object. Reading also takes the list of its values in order.
  * `Variant`, `readTagged`: sums, told apart by a member that holds a tag.
-/
import ExitBridge.Bytes.Fixed
import ExitBridge.Bytes.Hex
import ExitBridge.Json.Value

namespace ExitBridge

/-- A type with a form on the wire. -/
class Wire (α : Type) where
  write : α → Json
  read? : Json → Option α

namespace Wire

/-! ## Scalars -/

instance : Wire Json := ⟨id, some⟩

instance : Wire Bool where
  write := .bool
  read?
    | .bool b => some b
    | _ => none

instance : Wire String where
  write := .string
  read?
    | .string s => some s
    | _ => none

/-- A number from zero to a limit, without it. -/
def readBelow? (limit : Nat) : Json → Option Nat
  | .integer (.ofNat n) => if n < limit then some n else none
  | _ => none

/-- Counts and cursors have 64 bits. -/
instance : Wire Nat := ⟨.ofNat, readBelow? (2 ^ 64)⟩

instance : Wire UInt8 := ⟨fun n => .ofNat n.toNat, fun j => (readBelow? 256 j).map .ofNat⟩

instance : Wire UInt16 := ⟨fun n => .ofNat n.toNat, fun j => (readBelow? (2 ^ 16) j).map .ofNat⟩

instance : Wire UInt32 := ⟨fun n => .ofNat n.toNat, fun j => (readBelow? (2 ^ 32) j).map .ofNat⟩

instance : Wire UInt64 := ⟨fun n => .ofNat n.toNat, fun j => (readBelow? (2 ^ 64) j).map .ofNat⟩

/-! ## Lists and options -/

instance {α : Type} [Wire α] : Wire (List α) where
  write items := .array (items.map write)
  read?
    | .array items => items.mapM read?
    | _ => none

instance {α : Type} [Wire α] : Wire (Option α) where
  write
    | some a => Wire.write a
    | none => .null
  read?
    | .null => some none
    | j => (Wire.read? j).map some

/-! ## Bytes -/

/-- The text behind an optional mark `0x`. -/
def unmarked : List Char → List Char
  | '0' :: 'x' :: digits => digits
  | '0' :: 'X' :: digits => digits
  | digits => digits

/-- The bytes of a hexadecimal text or of a list. -/
def readBytes? : Json → Option Bytes
  | .string s => Hex.decode? (unmarked s.toList)
  | .array items => items.mapM (Wire.read? (α := UInt8))
  | _ => none

/-- Byte strings. -/
instance (priority := high) : Wire Bytes := ⟨fun bs => .string (Hex.text bs), readBytes?⟩

/-- The items of a list that stand for the bytes of a word: behind them one value may follow that
    is no byte. -/
def wordItems (n : Nat) (items : List Json) : List Json :=
  match items.drop n with
  | [extra] => if (Wire.read? extra : Option UInt8).isNone then items.take n else items
  | _ => items

/-- The word of `n` bytes of a hexadecimal text or of a list. -/
def readWord? {n : Nat} : Json → Option (FixedBytes n)
  | .array items => (readBytes? (.array (wordItems n items))).bind FixedBytes.ofBytes?
  | j => (readBytes? j).bind FixedBytes.ofBytes?

instance {n : Nat} : Wire (FixedBytes n) := ⟨fun b => .string (Hex.text b.toList), readWord?⟩

/-! ## Amounts -/

/-- The number that digits to a base stand for; no digit at all is zero. -/
def readDigits? (base : Nat) (digits : List Char) : Option Nat :=
  digits.foldlM (fun n c => do
    let v ← Hex.value? c
    if v < base then some (n * base + v) else none) 0

/-- The number of a text whose mark tells the base; ten without a mark. -/
def readNumber? : List Char → Option Nat
  | '0' :: 'x' :: digits => readDigits? 16 digits
  | '0' :: 'X' :: digits => readDigits? 16 digits
  | '0' :: 'o' :: digits => readDigits? 8 digits
  | '0' :: 'O' :: digits => readDigits? 8 digits
  | '0' :: 'b' :: digits => readDigits? 2 digits
  | '0' :: 'B' :: digits => readDigits? 2 digits
  | digits => readDigits? 10 digits

/-- The text of an amount: `0x` and the fewest digits. -/
def amountText (a : Amount) : String :=
  String.ofList ('0' :: 'x' :: Hex.ofNat a.toNat)

/-- An amount from a number or a text. -/
def readAmount? : Json → Option Amount
  | .string s => do
    let n ← readNumber? s.toList
    if n < 2 ^ 256 then some (BitVec.ofNat 256 n) else none
  | j => (readBelow? (2 ^ 64) j).map (BitVec.ofNat 256)

instance : Wire Amount := ⟨fun a => .string (amountText a), readAmount?⟩

end Wire

/-! ## Objects -/

/-- The members of an object. -/
abbrev Members := List (String × Json)

namespace Members

variable {α : Type}

/-- The value under a name, if there is one; fails if the name is given twice. -/
def find? (ms : Members) (name : String) : Option (Option Json) :=
  match ms.filter (·.1 == name) with
  | [] => some none
  | [(_, j)] => some (some j)
  | _ => none

/-- The value under a name. -/
def required [Wire α] (ms : Members) (name : String) : Option α := do
  Wire.read? (← (← ms.find? name))

/-- The value under a name; absent and null are `none`. -/
def optional [Wire α] (ms : Members) (name : String) : Option (Option α) := do
  match ← ms.find? name with
  | none => some none
  | some j => Wire.read? j

/-- The value under a name, or a default if the name is absent. -/
def withDefault [Wire α] (ms : Members) (name : String) (default : α) : Option α := do
  match ← ms.find? name with
  | none => some default
  | some j => Wire.read? j

/-- The members that an object has, or that a list of values has by position. `slots` names the
    positions and tells which of them may be missing at the end of a list. -/
def ofJson? (slots : List (String × Bool)) : Json → Option Members
  | .object ms => some ms
  | .array items =>
    if items.length ≤ slots.length ∧ (slots.drop items.length).all (·.2) then
      some ((slots.map (·.1)).zip items)
    else none
  | _ => none

end Members

/-- A type that is written as an object. -/
class WireRecord (α : Type) where
  /-- The members in order, and whether each may be missing at the end of a list. -/
  slots : List (String × Bool)
  members : α → Members
  ofMembers? : Members → Option α

instance {α : Type} [WireRecord α] : Wire α where
  write a := .object (WireRecord.members a)
  read? j := (Members.ofJson? (WireRecord.slots α) j).bind WireRecord.ofMembers?

/-! ## Sums -/

/-- One case of a sum: its tag and its members. -/
structure Variant (α : Type) where
  tag : String
  slots : List (String × Bool)
  ofMembers? : Members → Option α

/-- Reads a sum whose tag is the member `tagName`, or the first value of a list. -/
def readTagged {α : Type} (tagName : String) (variants : List (Variant α)) (j : Json) :
    Option α := do
  match j with
  | .object ms =>
    let tag : String ← Members.required ms tagName
    let v ← variants.find? (·.tag == tag)
    v.ofMembers? ms
  | .array (.string tag :: items) =>
    let v ← variants.find? (·.tag == tag)
    v.ofMembers? (← Members.ofJson? v.slots (.array items))
  | _ => none

end ExitBridge
