import Stemming.CommandLine.Report

set_option autoImplicit false

open Stemming.CommandLine

/-- Reads a stream to its end, after the bytes in `read`. -/
partial def readToEnd (stream : IO.FS.Stream) (read : ByteArray) : IO ByteArray := do
  let chunk ← stream.read 65536
  if chunk.isEmpty then return read else readToEnd stream (read ++ chunk)

def main (arguments : List String) : IO UInt32 := do
  let command := Command.ofArguments (← IO.getEnv languageVariable) arguments
  let report ← match command with
    | .error error => pure error.report
    | .ok command =>
      let input ← if command.readsInput then readToEnd (← IO.getStdin) .empty else pure .empty
      pure (command.report input.toList)
  IO.print report.stdout
  IO.eprint report.stderr
  return report.code.toUInt32
