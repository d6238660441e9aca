import DiagramMarkup.CommandLine.Program
import Std.Time.DateTime.Timestamp

/-! # The executable -/

namespace DiagramMarkup

open CommandLine

/-- What the system says about an error of input or output. -/
def systemCause : IO.Error → String
  | .noFileOrDirectory .. => "No such file or directory (os error 2)"
  | .permissionDenied .. => "Permission denied (os error 13)"
  | e => toString e

/-- The result of an action, or the cause of its failure. -/
def attempt {α : Type} (action : IO α) : IO (Except String α) := do
  match ← action.toBaseIO with
  | .ok value => return .ok value
  | .error e => return .error (systemCause e)

/-- Everything that is left of a stream. -/
def readAllBytes (stream : IO.FS.Stream) : IO ByteArray := do
  let mut bytes := ByteArray.empty
  repeat
    let more ← stream.read 65536
    if more.isEmpty then break
    bytes := bytes ++ more
  return bytes

def decodeInput (bytes : ByteArray) : Except String String :=
  match String.fromUTF8? bytes with
  | some text => .ok text
  | none => .error "stream did not contain valid UTF-8"

/-- The files, streams and clock of the system. -/
def systemHost : Host IO where
  load path := do
    return (← attempt (IO.FS.readBinFile path)).bind decodeInput
  input := do
    return (← attempt (do readAllBytes (← IO.getStdin))).bind decodeInput
  save path text := attempt (IO.FS.writeFile path text)
  now := do
    return (← Std.Time.Timestamp.now).toMillisecondsSinceUnixEpoch.val

end DiagramMarkup

def main (arguments : List String) : IO UInt32 := do
  let outcome ← DiagramMarkup.CommandLine.run DiagramMarkup.systemHost arguments
  IO.print outcome.output
  IO.eprint outcome.errors
  return .ofNat outcome.code
