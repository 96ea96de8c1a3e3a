import Enhance.CommandLine.Commands
import Enhance.Json.Printer

/-!
# The program on the command line

The program runs on a tree of files that standard input describes, one entry a line, and prints
on standard output. Its log and the reason why it stopped go to standard error. It reads no
calendar: runs are dated at the epoch.
-/

namespace Enhance.CommandLine.Commands

/-- The date of runs. -/
def epoch : Timestamp :=
  { date := ⟨1970, 1, 1⟩, hour := 0, minute := 0, second := 0, microsecond := 0, offset := some 0 }

/-- The lines of a stream up to its end, without the signs at their ends. -/
partial def linesOf (stream : IO.FS.Stream) : IO (List (List Char)) := do
  let line ← stream.getLine
  if line.isEmpty then return []
  return line.toList.takeWhile (fun c => c ≠ '\n' && c ≠ '\r') :: (← linesOf stream)

end Enhance.CommandLine.Commands

open Enhance Enhance.CommandLine in
/-- Runs the program on its arguments and gives the code that it ends with. -/
def main (arguments : List String) : IO UInt32 := do
  let described ← Commands.linesOf (← IO.getStdin)
  let (disk, refused) := Disk.setUp .empty [] (described.filterMap Disk.Item.ofLine?)
  if let some error := refused then
    IO.eprintln error.message
    return 2
  let plugins : Plugins := { preferred := ← IO.getEnv "WEAVER_TRANSFORMER" }
  let (ending, world) := Commands.run plugins arguments { disk, now := Commands.epoch }
  for text in world.printed.reverse do IO.print text
  for line in world.shownLog do IO.eprintln line.compact
  if let some words := ending.words? then IO.eprintln words
  return ending.code.toUInt32
