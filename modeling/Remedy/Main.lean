import Remedy.Command.Run
import Remedy.Fix.Apply
import Std.Time.DateTime.Timestamp

/-! The program on a real disk, with the real clock. -/

namespace Remedy.Machine

def told (given : UInt32) (details : String) : DiskError :=
  let number := if given < 0x80000000 then given else -given
  if number = 2 then .missing
  else if number = 16 then .busy
  else if number = 17 then .present
  else if number = 20 then .notDirectory
  else if number = 21 then .isDirectory
  else .other (details ++ " (os error " ++ Text.natText number.toNat ++ ")")

def diskError : IO.Error → DiskError
  | .alreadyExists _ n s | .invalidArgument _ n s | .permissionDenied _ n s | .resourceExhausted _ n s
  | .inappropriateType _ n s | .noSuchThing _ n s | .interrupted _ n s | .noFileOrDirectory _ n s => told n s
  | .otherError n s | .resourceBusy n s | .resourceVanished n s | .unsupportedOperation n s
  | .hardwareFault n s | .unsatisfiedConstraints n s | .illegalOperation n s | .protocolError n s
  | .timeExpired n s => told n s
  | .unexpectedEof => .other "unexpected end of file"
  | .userError s => .other s

def step {α : Type} (act : IO α) : BaseIO (Except DiskError α) := do
  match ← act.toBaseIO with
  | .ok a => return .ok a
  | .error e => return .error (diskError e)

def entry (p : Path) : IO.FS.DirEntry := { root := ".", fileName := p.text }

def names (p : Path) : IO (List String) := do
  return (← (entry p).path.readDir).toList.map (·.fileName)

def kind? (p : Path) : BaseIO (Option FileKind) := do
  match ← step (entry p).path.metadata with
  | .ok found => return some (if found.type == .dir then .directory else .regular)
  | .error _ => return none

/-- Writes a file of a name that nobody else uses and lets it take the place of the old one. -/
def replace (p : Path) (s : String) : IO Unit := do
  let mark := String.ofList (Text.Hex.ofBytes (← IO.getRandomBytes 8).data.toList)
  let draft := p.withFileName (".tmp" ++ mark)
  IO.FS.writeFile draft.text s
  try IO.FS.rename draft.text p.text
  catch e =>
    IO.FS.removeFile draft.text
    throw e

abbrev Held := IO.Ref (List (Path × IO.FS.Handle))

/-- Makes sure that a file is there, and waits until no other program holds it. -/
def hold (held : Held) (p : Path) : IO Unit := do
  if (← held.get).any (·.1 == p) then return
  let handle ← IO.FS.Handle.mk p.text .append
  handle.lock
  held.modify ((p, handle) :: ·)

def disk (held : Held) : Disk BaseIO where
  kind? := kind?
  read p := step (IO.FS.readBinFile p.text)
  names p := step (names p)
  makeDirectory p := step (IO.FS.createDir p.text)
  touch p := step (hold held p)
  write p s := step (IO.FS.writeFile p.text s)
  replace p s := step (replace p s)

def now : IO Instant := do
  let t := (← Std.Time.Timestamp.now).toNanosecondsSinceUnixEpoch.val
  return ⟨t / 1000000000, (t % 1000000000).toNat⟩

def nameOf (random : List UInt8) (n : Nat) : String :=
  Fix.attemptName (random.take 12 ++ [24, 16, 8, 0].map fun shift => UInt8.ofNat (n >>> shift))

def environment : IO Environment := do
  let block ← IO.FS.readBinFile "/proc/self/environ"
  return .ofBlock block.data.toList

end Remedy.Machine

open Remedy in
def main (words : List String) : IO UInt32 := do
  let start ← Machine.now
  let random := (← IO.getRandomBytes 16).data.toList
  let held ← IO.mkRef []
  let around : Surroundings BaseIO := ⟨Machine.disk held, fun _ => start, Machine.nameOf random⟩
  let environment ← Machine.environment
  let printed ← (Program.run around environment words : BaseIO Printed)
  IO.print printed.output
  if let some report := printed.report? then IO.eprint report
  return printed.exitCode.toUInt32
