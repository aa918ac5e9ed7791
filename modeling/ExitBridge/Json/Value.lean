/-
  JSON values.

  * `Json`: the values. An object is its list of members in the order of the text; a name may
    appear twice, which readers of records refuse.
  * A number is an `integer` when its text is one; any other number is kept as its text
    (`decimal`), because nothing on the wire is fractional.
-/

namespace ExitBridge

/-- A JSON value. -/
inductive Json where
  | null
  | bool (b : Bool)
  | integer (n : Int)
  | decimal (text : String)
  | string (s : String)
  | array (items : List Json)
  | object (members : List (String × Json))
  deriving Inhabited, BEq

namespace Json

/-- A natural number as a JSON integer. -/
def ofNat (n : Nat) : Json := .integer n

end Json

end ExitBridge
