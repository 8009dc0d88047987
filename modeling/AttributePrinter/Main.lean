import AttributePrinter.Program

/-!
# The command

Runs the program on the process's own arguments, environment and standard streams. No call of
the runtime reads the attributes of a file, so the source here answers every query as a file
system without attributes does.
-/

namespace AttributePrinter

/-- Every query fails as not supported. -/
def noAttributes : Source :=
  .ofLookup fun _ _ => .error .notSupported

end AttributePrinter

open AttributePrinter in
def main : IO UInt32 := do
  let line ← IO.FS.readBinFile "/proc/self/cmdline"
  let block ← IO.FS.readBinFile "/proc/self/environ"
  let environment := Setting.Environment.ofBlock block.toList
  let result := Program.run
    { source := noAttributes
      arguments := (Text.pieces 0 line.toList).dropLast.drop 1
      environment
      stdout := .working }
  let out ← IO.getStdout
  out.write (ByteArray.mk result.output.toArray)
  out.flush
  let report := result.ending.report (Program.wantsRawMessages environment)
  (← IO.getStderr).putStr (String.ofList report)
  return UInt32.ofNat result.ending.code
