import PromptWeave.CommandLine.Answer
import PromptWeave.Schema.Validation

/-! The command: its questions about files are put to the disk, and warnings go to standard error. -/
namespace PromptWeave
namespace Disk

/-- The number and the text of an error of the operating system. -/
def numbered? : IO.Error → Option (UInt32 × String)
  | .alreadyExists _ n text | .invalidArgument _ n text | .permissionDenied _ n text
  | .resourceExhausted _ n text | .inappropriateType _ n text | .noSuchThing _ n text => (n, text)
  | .noFileOrDirectory _ n text | .interrupted _ n text => (n, text)
  | .otherError n text | .resourceBusy n text | .resourceVanished n text
  | .unsupportedOperation n text | .hardwareFault n text | .unsatisfiedConstraints n text
  | .illegalOperation n text | .protocolError n text | .timeExpired n text => (n, text)
  | .unexpectedEof | .userError _ => none

/-- The cause behind an error; a number may come with its sign changed. -/
def causeOf (e : IO.Error) : OsError :=
  match numbered? e with
  | none => .other (toString e)
  | some (n, text) =>
    let n := min n.toNat (Nat.pow 2 32 - n.toNat)
    if n = 2 then .notFound
    else if n = 20 then .notADirectory
    else if n = 21 then .isADirectory
    else if n = 40 then .tooManyLinks
    else .other (text.capitalize ++ s!" (os error {n})")

def attempt {α : Type} (action : IO α) : IO (Except OsError α) := do
  try return .ok (← action) catch e => return .error (causeOf e)

def decode (bytes : ByteArray) : Except OsError String :=
  match String.fromUTF8? bytes with
  | some s => .ok s
  | none => .error .notUtf8

def text (p : Path) : IO (Except OsError String) := do
  return (← attempt (IO.FS.readBinFile p.text)) >>= decode

def names (p : Path) : IO (Except OsError (List String)) := do
  let here ← IO.currentDir
  attempt do
    let entries ← { here with toString := p.text }.readDir
    return entries.toList.map fun e => e.fileName

def isFile (p : Path) : IO (Except OsError Bool) := do
  let here ← IO.currentDir
  attempt do
    let data ← { here with toString := p.text }.metadata
    return data.type matches .file

/-- Carries a reading out. -/
def perform {α : Type} : Reading α → IO α
  | .done a => return a
  | .text p next => do perform (next (← text p))
  | .names p next => do perform (next (← names p))
  | .isFile p next => do perform (next (← isFile p))
  | .warn warning next => do
    IO.eprintln ("warning: " ++ warning)
    perform next

def readInput : IO (Except OsError String) := do
  return (← attempt (do (← IO.getStdin).readBinToEnd)) >>= decode

end Disk
end PromptWeave

open PromptWeave in
def main (words : List String) : IO UInt32 := do
  let working : Path := ⟨(← IO.currentDir).toString⟩
  let input ← if CommandLine.wantsInput words then Disk.readInput else pure (.ok "")
  let outcome ← Disk.perform (CommandLine.run Schema.standard words working input)
  IO.print outcome.out
  IO.eprint outcome.err
  return outcome.code.toUInt32
