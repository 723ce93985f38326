import Proctor.Machine.Builtin.Place
import Proctor.Machine.Builtin.Processes
import Proctor.Machine.Builtin.Variables

/-!
# The commands of a shell by name

Some of them are special: assignments before them stay, and using them in a wrong way ends the
shell. Those that run other commands are known here by name only.
-/

set_option autoImplicit false

namespace Proctor

namespace Machine

open Shell

namespace Builtin

def running : List String := [".", "eval", "exec", "command", "type", "hash"]

def declaring : List String := ["alias", "export", "local", "readonly"]

def quiet (status : Nat) (t : Turn) (_ : List Text) : Turn := t.withStatus status

def table : List (String × (Turn → List Text → Turn)) :=
  [(":", quiet 0), ("true", quiet 0), ("false", quiet 1), ("echo", echo), ("printf", printf),
   ("test", test), ("[", bracket), ("exit", exit), ("return", return_),
   ("break", loopControl false), ("continue", loopControl true), ("cd", cd), ("chdir", cd),
   ("pwd", pwd), ("umask", umask), ("set", set), ("shift", shift),
   ("export", mark "export" Variable.exported Context.exportVariable),
   ("readonly", mark "readonly" Variable.frozen Context.freezeVariable), ("unset", unset),
   ("local", local_), ("alias", alias_), ("unalias", unalias), ("getopts", getopts),
   ("read", read), ("trap", trap), ("kill", kill), ("wait", wait), ("jobs", jobs),
   ("fg", moveJob), ("bg", moveJob), ("times", times), ("ulimit", ulimit)]

def isKnown (name : Text) : Bool :=
  let key := String.ofList name
  running.contains key || (table.lookup key).isSome

def isSpecial (name : Text) : Bool := specialCommands.contains (String.ofList name)

end Builtin

end Machine

end Proctor
