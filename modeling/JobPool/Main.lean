/-
**The program.**

The program reads its arguments and the environment, and writes the reply. Random draws without a
seed start from a key that the system chooses.
-/

import JobPool.CommandLine.Reply

/-- The variables of the process, none where they cannot be read. -/
def environment : IO (List (String × String)) := do
  try
    let entries ← IO.FS.readBinFile "/proc/self/environ"
    return JobPool.readVariables ((String.fromUTF8? entries).getD "")
  catch _ =>
    return []

def main (arguments : List String) : IO UInt32 := do
  let key ← IO.getRandomBytes 32
  let reply := JobPool.reply arguments (← environment) (.ofBytes key.toList)
  for line in reply.output do
    IO.println line
  IO.eprint (reply.errors "0s")
  return reply.exitCode.toUInt32
