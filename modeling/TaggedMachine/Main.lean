import TaggedMachine.Command

/-!
The command line: the setting of the filter comes from the environment, the log and the error go
to standard error, and the exit code tells of the error.
-/

def main : IO UInt32 := do
  let setting ← IO.getEnv "RUST_LOG"
  let (code, ending) := TaggedMachine.Command.ending
    (TaggedMachine.Command.runAll TaggedMachine.Sample.all).2
  for line in TaggedMachine.Command.lines setting ++ ending do
    IO.eprintln line
  return code
