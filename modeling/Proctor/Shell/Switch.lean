import Proctor.Shell.Text

/-!
# Switches of a shell

A shell has switches that are turned on and off by letter or by name, when it is started and later.
Two of them have a name only.
-/

set_option autoImplicit false

namespace Proctor

namespace Shell

namespace Switch

/-- The switches by name, in the order in which they are listed. Those without a letter of their own
are kept under a digit. -/
def names : List (String × Char) :=
  [("errexit", 'e'), ("noglob", 'f'), ("ignoreeof", 'I'), ("interactive", 'i'), ("monitor", 'm'),
   ("noexec", 'n'), ("stdin", 's'), ("xtrace", 'x'), ("verbose", 'v'), ("vi", 'V'), ("emacs", 'E'),
   ("noclobber", 'C'), ("allexport", 'a'), ("notify", 'b'), ("nounset", 'u'), ("privileged", 'p'),
   ("nolog", '0'), ("debug", '1')]

def isLetter (c : Char) : Bool := !c.isDigit && names.any fun n => n.2 == c

def turn (on : Bool) (c : Char) (options : List Char) : List Char :=
  let others := options.filter (· ≠ c)
  if on then c :: others else others

def listing (inWords : Bool) (options : List Char) : Text :=
  let line (name : String) (on : Bool) : String :=
    let blanks := String.ofList (List.replicate (16 - name.length) ' ')
    if inWords then name ++ blanks ++ (if on then "on" else "off") ++ "\n"
    else (if on then "set -o " else "set +o ") ++ name ++ "\n"
  let lines := names.map fun (name, c) => line name (options.contains c)
  ((if inWords then "Current option settings\n" else "") ++ String.join lines).toList

structure Outcome where
  options : List Char
  /-- The script is among the arguments that are left. -/
  asksForScript : Bool := false
  /-- The arguments ended with a mark that nothing comes after. -/
  clears : Bool := false
  printed : Text := []
  fault : Option Text := none
  rest : List Text := []

def byName (on : Bool) (o : Outcome) : Outcome :=
  match o.rest with
  | [] => { o with printed := o.printed ++ listing on o.options }
  | name :: rest =>
    match names.lookup (String.ofList name) with
    | some c => { o with options := turn on c o.options, rest }
    | none => { o with fault := some ("Illegal option -o ".toList ++ name), rest }

def letters (starting on : Bool) (o : Outcome) : Text → Outcome
  | [] => o
  | c :: more =>
    if o.fault.isSome then o
    else if c == 'c' && starting then letters starting on { o with asksForScript := true } more
    else if c == 'l' && starting then letters starting on o more
    else if c == 'o' then letters starting on (byName on o) more
    else if isLetter c then letters starting on { o with options := turn on c o.options } more
    else { o with fault := some ("Illegal option -".toList ++ [c]) }

/-- Goes through the arguments up to the first that is no option. `starting` tells that the shell is
just being started. -/
def read (starting : Bool) : Nat → Outcome → Outcome
  | 0, o => o
  | fuel + 1, o =>
    if o.fault.isSome then o
    else
      match o.rest with
      | ['-'] :: rest =>
        if starting then { o with rest }
        else { o with rest, options := turn false 'x' (turn false 'v' o.options) }
      | ['-', '-'] :: rest => { o with rest, clears := rest.isEmpty }
      | ('-' :: word) :: rest => read starting fuel (letters starting true { o with rest } word)
      | ('+' :: word) :: rest => read starting fuel (letters starting false { o with rest } word)
      | _ => o

end Switch

end Shell

end Proctor
