/-
  The command line of a node.

  The settings come from the environment. Every line of the input is a request, with the reading of
  the wall clock at which it arrived; every line of the output is the response. A line that is no
  request gets `null`.
-/
import ExitBridge.Json.Printer
import ExitBridge.Node.Server
import ExitBridge.Settings.Environment
import ExitBridge.Wire.Http

namespace ExitBridge

/-- The response to a line, and the node after it. -/
def respondToLine (n : Node) (line : String) : Json × Node :=
  let request : Option (UInt64 × Request) := do
    let ms ← Members.ofObject? (← Json.parse? line)
    return (← Members.withDefault ms "now" 0, ← WireRecord.ofMembers? ms)
  match request with
  | none => (.null, n)
  | some (now, r) =>
    let (response, n) := n.handle now r
    (response.toJson, n)

/-- Answers lines until the input ends. -/
partial def serveLines (n : Node) (input output : IO.FS.Stream) : IO Unit := do
  let line ← input.getLine
  if line.isEmpty then return
  let (response, n) := respondToLine n line
  output.putStrLn response.render
  output.flush
  serveLines n input output

/-- The node of valid settings, or why there is none. -/
def startNode (env : Environment) : Except String Node := do
  let settings ← (Settings.ofEnvironment env).mapError (·.message)
  settings.validate.mapError (·.message)
  checkBindAddress settings.apiBindAddress settings.apiPort |>.mapError (·.message)
  (Node.create .keccak settings).mapError (·.message)

/-- Runs a node until the input ends. -/
def runNode : IO UInt32 := do
  let texts ← Variable.all.mapM fun v => do return (v, ← IO.getEnv v.name)
  match startNode fun v => (texts.lookup v).join with
  | .error message =>
    IO.eprintln s!"Error: {message}"
    return 1
  | .ok n =>
    serveLines n (← IO.getStdin) (← IO.getStdout)
    return 0

end ExitBridge

def main : IO UInt32 := ExitBridge.runNode
