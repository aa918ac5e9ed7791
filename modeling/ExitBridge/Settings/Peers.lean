/-
  The rollup nodes that an authority polls.

  * `RollupPeer.parseList`: peers from the text `index=url,index=url`. Blanks around the parts,
    slashes at the end of a URL, and empty entries do not count.
  * `RollupPeer.listText`: the text of a list of peers.
  * `redactUrl`: a URL without the user and password in it, for logs and descriptions.
-/
import ExitBridge.Text.Blank
import ExitBridge.Text.Described
import ExitBridge.Text.Integer
import ExitBridge.Text.Quoted
import ExitBridge.Text.Split

namespace ExitBridge

/-! ## URLs -/

/-- What lies behind the last at-sign of a text. -/
def behindLastAt (cs : List Char) : List Char :=
  (cs.reverse.takeWhile (· ≠ '@')).reverse

/-- A URL without the user and password that may stand before its host. -/
def redactChars (url : List Char) : List Char :=
  match Text.splitOnce? [':', '/', '/'] url with
  | none => url
  | some (scheme, rest) =>
    let host := rest.takeWhile (· ≠ '/')
    if '@' ∈ host then
      scheme ++ "://<redacted>@".toList ++ behindLastAt host ++ rest.dropWhile (· ≠ '/')
    else url

/-- A URL without the user and password in it. -/
def redactUrl (url : String) : String := String.ofList (redactChars url.toList)

/-- A URL without blanks around it and slashes at its end. -/
def trimUrl (cs : List Char) : List Char := Text.dropEnd (· == '/') (Text.trim cs)

/-! ## Peers -/

/-- A rollup node, whose exit root the authority folds in. -/
structure RollupPeer where
  rollupIndex : UInt32
  url : String
  deriving DecidableEq, Inhabited

/-- Why a text is no list of peers. -/
inductive PeerListError where
  | noIndex (entry : String)
  | index (text : String)
  | noUrl (rollupIndex : UInt32)
  deriving DecidableEq, Inhabited

/-- The wording of an error. -/
def PeerListError.message : PeerListError → String
  | noIndex entry => s!"Invalid ROLLUP_PEERS entry (expected index=url): {entry}"
  | index text => s!"Invalid rollup index in ROLLUP_PEERS: {text}"
  | noUrl rollupIndex => s!"Empty URL for rollup index {rollupIndex}"

namespace RollupPeer

/-- The peer in a line of text. -/
def describe (p : RollupPeer) : String :=
  Text.describedRecord "RollupPeer"
    [("rollup_index", toString p.rollupIndex), ("url", Text.quoted (redactUrl p.url))]

/-- One entry, without blanks around it. -/
def parse (entry : List Char) : Except PeerListError RollupPeer :=
  match Text.splitOnce? ['='] entry with
  | none => .error (.noIndex (String.ofList entry))
  | some (number, url) =>
    match Text.readInteger? (2 ^ 32) (Text.trim number) with
    | none => .error (.index (String.ofList number))
    | some n =>
      if (trimUrl url).isEmpty then .error (.noUrl (UInt32.ofNat n))
      else .ok ⟨UInt32.ofNat n, String.ofList (trimUrl url)⟩

/-- The entries of a list that are not empty, without blanks around them. -/
def entries (text : List Char) : List (List Char) :=
  ((Text.splitAll ',' text).map Text.trim).filter (!·.isEmpty)

/-- The peers of a text. -/
def parseList (text : String) : Except PeerListError (List RollupPeer) :=
  (entries text.toList).mapM parse

/-- The text of a list of peers. -/
def listText (peers : List RollupPeer) : String :=
  ",".intercalate (peers.map fun p => s!"{p.rollupIndex}={p.url}")

end RollupPeer

end ExitBridge
