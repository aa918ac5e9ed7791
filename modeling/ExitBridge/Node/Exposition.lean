/-
  The text in which a node tells its metrics.

  Every family of samples has a line of help, a line with its kind, and a line for each sample.
  Families are in the order of their names, samples in the order of their label values; a family
  without samples is left out. Names and label values hold letters, digits and underscores only, so
  nothing needs to be escaped. A value is a double, written with the fewest digits that read back as
  the same double, and never with an exponent.

  * `nearestDouble n`: the double nearest to a natural number.
  * `valueText v`: the text of a value.
  * `exposition families`: the whole text.
-/
import ExitBridge.Bytes.BigEndian

namespace ExitBridge

/-! ## Values -/

/-- The double nearest to a natural number; of two as near, the one with an even significand. -/
def nearestDouble (n : Nat) : Nat :=
  if n < 2 ^ 53 then n
  else
    let step := 2 ^ (n.log2 - 52)
    let low := n / step
    let rest := n % step
    if step < 2 * rest ∨ (2 * rest = step ∧ low % 2 = 1) then (low + 1) * step else low * step

/-- Of the multiples of `grid` on both sides of a double, the nearer one that reads back as it. -/
def readsBackOn? (v grid : Nat) : Option Nat :=
  let low := v / grid * grid
  let high := low + grid
  if nearestDouble low = v then
    if nearestDouble high = v ∧ high - v < v - low then some high else some low
  else if nearestDouble high = v then some high
  else none

/-- The number with the fewest digits before its last zeros that reads back as a double. -/
def fewestDigits (v : Nat) : Nat :=
  ((List.range 20).reverse.findSome? fun k => readsBackOn? v (10 ^ k)).getD v

/-- The text of a value. -/
def valueText (v : Int) : String :=
  let n := v.natAbs
  let digits := if n < 2 ^ 53 then n else fewestDigits (nearestDouble n)
  (if v < 0 then "-" else "") ++ toString digits

/-! ## Families -/

/-- What the values of a family are. -/
inductive MetricKind where
  /-- A number of occurrences, which only grows. -/
  | counter
  /-- A reading of the present state. -/
  | gauge
  deriving DecidableEq, Inhabited

/-- The name of a kind. -/
def MetricKind.name : MetricKind → String
  | counter => "counter"
  | gauge => "gauge"

/-- A value, and what tells it from the others of its family. -/
structure Sample where
  /-- Names and values, in the order of the names. -/
  labels : List (String × String)
  value : Int
  deriving DecidableEq, Inhabited

/-- Samples of one name. -/
structure MetricFamily where
  name : String
  help : String
  kind : MetricKind
  samples : List Sample
  deriving DecidableEq, Inhabited

namespace Sample

/-- The label values, which samples are ordered by. -/
def key (s : Sample) : List String := s.labels.map (·.2)

/-- The labels in braces. -/
def labelText (s : Sample) : String :=
  if s.labels.isEmpty then ""
  else
    "\x7b" ++ ",".intercalate (s.labels.map fun (name, value) => name ++ "=\"" ++ value ++ "\"") ++
      "\x7d"

/-- The line of a sample. -/
def line (family : String) (s : Sample) : String :=
  family ++ s.labelText ++ " " ++ valueText s.value ++ "\n"

end Sample

namespace MetricFamily

/-- The lines of a family. -/
def text (f : MetricFamily) : String :=
  let samples := f.samples.mergeSort fun a b => !decide (b.key < a.key)
  s!"# HELP {f.name} {f.help}\n# TYPE {f.name} {f.kind.name}\n" ++
    String.join (samples.map (·.line f.name))

end MetricFamily

/-- The text of families of samples. -/
def exposition (families : List MetricFamily) : String :=
  let present := families.filter (!·.samples.isEmpty)
  String.join ((present.mergeSort fun a b => !decide (b.name < a.name)).map (·.text))

end ExitBridge
