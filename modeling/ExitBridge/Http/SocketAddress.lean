/-
  The addresses that a server may listen on.

  * `isHostAddress cs`: four numbers below 256 with points between them, without needless zeros.
-/
import ExitBridge.Text.Integer
import ExitBridge.Text.Split

namespace ExitBridge

/-- A number below 256 without needless zeros. -/
def isOctet (cs : List Char) : Bool :=
  cs.all Char.isDigit && (Text.readInteger? 256 cs).isSome &&
    (cs.length == 1 || cs.head? != some '0')

/-- Is this the address of a host? -/
def isHostAddress (cs : List Char) : Bool :=
  let parts := Text.splitAll '.' cs
  parts.length == 4 && parts.all isOctet

end ExitBridge
