import Proctor.Machine.Launch
import Proctor.Program

/-!
# The command line

A run takes place on a machine of its own. Its working directory is empty unless a script on
standard input furnishes it: that script can write the settings, the tests and the programs of the
toolchain.
-/

set_option autoImplicit false

namespace Proctor

namespace Program

def portion : USize := 65536

partial def readAll (stream : IO.FS.Stream) (done : ByteArray) : IO ByteArray := do
  let part ← stream.read portion
  if part.isEmpty then return done else readAll stream (done ++ part)

/-- Writes bytes out; a text whose line is not ended is given an end if that is asked for. -/
def writeAll (stream : IO.FS.Stream) (bytes : Bytes) (endsLine : Bool) : IO Unit := do
  let newline := Bytes.ofString "\n"
  let ended := bytes.isEmpty || !endsLine || newline.isSuffixOf bytes
  stream.write ⟨(if ended then bytes else bytes ++ newline).toArray⟩
  stream.flush

end Program

end Proctor

open Proctor in
def main (arguments : List String) : IO UInt32 := do
  let script ← Program.readAll (← IO.getStdin) ByteArray.empty
  let exit := Program.call Machine.host arguments (Machine.furnished script.toList)
  Program.writeAll (← IO.getStdout) exit.stdout false
  Program.writeAll (← IO.getStderr) (exit.world.errors ++ exit.stderr) true
  return UInt32.ofNat exit.code
