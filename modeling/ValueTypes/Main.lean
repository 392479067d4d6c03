import ValueTypes.CommandLine

open ValueTypes

def main (args : List String) : IO UInt32 := do
  let (answer, logs) := CommandLine.run args
  for l in logs do
    IO.eprintln (l.level.name ++ " " ++ l.text)
  if answer.code = 2 then IO.eprint CommandLine.usage
  IO.print answer.out
  return UInt32.ofNat answer.code
