import Fulfillment.Script.Run

/-!
# Command line

Reads script lines from standard input and writes one answer line for each, flushing after
every answer.
-/

namespace Fulfillment

/-- Answers every line of a stream until it ends. -/
partial def serve (input : IO.FS.Stream) (output : IO.FS.Stream) : IO Unit := do
  let line ← input.getLine
  if line.isEmpty then return
  let trimmed := line.trimAsciiEnd.copy
  if !trimmed.isEmpty then
    output.putStrLn (Script.answerLine trimmed)
    output.flush
  serve input output

end Fulfillment

/-- Serves standard input. -/
def main : IO Unit := do
  Fulfillment.serve (← IO.getStdin) (← IO.getStdout)
