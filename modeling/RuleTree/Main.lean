import RuleTree.CommandLine.Run

/-!
The program: arguments, files and streams around `RuleTree.CommandLine.respond`.
-/

open RuleTree.CommandLine

/-- The text of a file, none when it cannot be read as UTF-8. -/
def readFile? (path : String) : IO (Option String) := do
  try
    return String.fromUTF8? (← IO.FS.readBinFile path)
  catch _ =>
    return none

/-- The whole standard input, none when it cannot be read as UTF-8. -/
partial def readInput? : IO (Option String) := do
  let stream ← IO.getStdin
  let rec loop (bytes : ByteArray) : IO ByteArray := do
    let chunk ← stream.read 65536
    if chunk.isEmpty then return bytes else loop (bytes ++ chunk)
  return String.fromUTF8? (← loop ByteArray.empty)

/-- What the options of a run let it read, read ahead of the run. -/
def environmentOf (options : Options) : IO Environment := do
  match options.expression, options.file with
  | none, some path =>
    let text ← readFile? path
    return ⟨fun _ => text, none⟩
  | none, none => return ⟨fun _ => none, ← readInput?⟩
  | some _, _ => return ⟨fun _ => none, none⟩

def main (arguments : List String) : IO UInt32 := do
  let request := request? arguments
  let environment ←
    match request with
    | some (.run options) =>
      if options.fetches then environmentOf options else pure ⟨fun _ => none, none⟩
    | _ => pure ⟨fun _ => none, none⟩
  let report := respond environment arguments
  IO.print report.standardOutput
  IO.eprint (if request.isNone then usage else report.standardError)
  return report.code.toUInt32
