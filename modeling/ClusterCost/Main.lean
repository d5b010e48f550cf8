import ClusterCost.Command.Run
import Std.Time.DateTime.Timestamp

/-!
# The program

Gives the command line the files and the clock of the machine, and passes its ending on.
-/
namespace ClusterCost.Main

def readText (path : String) : IO (Option String) := do
  try
    let bytes ← IO.FS.readBinFile path
    pure (String.fromUTF8? bytes)
  catch _ => pure none

def present : IO Instant := do
  let t ← Std.Time.Timestamp.now
  pure ((Instant.ofParts? t.toSecondsSinceUnixEpoch.val 0).getD Instant.epoch)

end ClusterCost.Main

def main (arguments : List String) : IO UInt32 := do
  let ending ← ClusterCost.Command.execute ⟨ClusterCost.Main.readText, ClusterCost.Main.present⟩ arguments
  IO.print ending.output
  match ending with
  | .printed _ => pure ()
  | .failed cause => IO.eprintln ("Error: " ++ cause.message)
  | .refused _ => IO.eprint ClusterCost.Command.usage
  | .aborted => IO.eprintln "Aborted: a sum left its word"
  pure (UInt32.ofNat ending.status)
