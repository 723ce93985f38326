import Proctor.Machine.Turn
import Proctor.Shell.Condition
import Proctor.Shell.Escape

/-!
# Commands that a shell does itself

How they read their options and numbers, and those of them that print, ask or end something. A
command takes the turn and its arguments and gives the turn back; what it prints is written when it
is done.
-/

set_option autoImplicit false

namespace Proctor

namespace Machine

open Shell Tool

namespace Builtin

structure Given where
  options : List (Char × Text) := []
  rest : List Text := []

def readLetters (accepted : List Char) : Text → Except Text (List (Char × Text) × Option Char)
  | [] => .ok ([], none)
  | c :: more =>
    if c == ':' || !accepted.contains c then .error ("Illegal option -".toList ++ [c])
    else if (accepted.dropWhile (· ≠ c)).tail.head? == some ':' then
      if more.isEmpty then .ok ([], some c) else .ok ([(c, more)], none)
    else do
      let (options, wanting) ← readLetters accepted more
      return ((c, []) :: options, wanting)

/-- Reads options up to the first argument that is none. A letter with a colon after it takes an
argument. -/
def readOptions (accepted : List Char) : List Text → Except Text Given
  | [] => .ok {}
  | ['-', '-'] :: rest => .ok { rest }
  | ('-' :: c :: more) :: rest => do
    match ← readLetters accepted (c :: more), rest with
    | (options, none), rest =>
      let given ← readOptions accepted rest
      return { given with options := options ++ given.options }
    | (options, some letter), argument :: rest =>
      let given ← readOptions accepted rest
      return { given with options := options ++ (letter, argument) :: given.options }
    | (_, some letter), [] => .error ("No arg for -".toList ++ letter :: " option".toList)
  | rest => .ok { rest }

def withOptions (accepted : String) (k : Turn → Given → Turn) (t : Turn) (args : List Text) :
    Turn :=
  match readOptions accepted.toList args with
  | .error message => t.refuse message
  | .ok given => k t given

def greatest : Int := 2147483647

def number (t : Text) : Except Text Nat :=
  match Condition.integer t with
  | .error message => .error message
  | .ok n =>
    if n < 0 || greatest < n then .error ("Illegal number: ".toList ++ t) else .ok n.toNat

def count (args : List Text) (usual : Nat) : Except Text Nat :=
  match args with
  | [] => .ok usual
  | a :: _ => number a

def echo (t : Turn) (args : List Text) : Turn := (t.withStatus 0).say (Escape.echo args)

def printf : Turn → List Text → Turn :=
  withOptions "" fun t given =>
    match given.rest with
    | [] => t.refuse "usage: printf format [arg ...]".toList
    | format :: args =>
      let printed := Format.print format args
      let t := (t.withStatus printed.status).say printed.output
      printed.errors.foldl (fun t message => t.complain message) t

def test (t : Turn) (args : List Text) : Turn :=
  match Condition.answer t.files (args.length + 8) args with
  | .ok true => t.withStatus 0
  | .ok false => t.withStatus 1
  | .error message => t.refuse message

def bracket (t : Turn) (args : List Text) : Turn :=
  if args.getLast? == some [']'] then test t args.dropLast else t.refuse "missing ]".toList

/-- Ends the shell. While something is done at a signal, the status from before it counts. -/
def exit (t : Turn) (args : List Text) : Turn :=
  match count args (t.shell.saved.getD t.status) with
  | .ok n => t.exit (n % 256)
  | .error message => t.refuse message

def isReturnTarget : Frame → Bool
  | .leave .. => true
  | .sourced _ => true
  | .closing .. => true
  | _ => false

/-- Leaves a function, a file that is read as commands or what is done at the end, or the script if
there is none. -/
def return_ (t : Turn) (args : List Text) : Turn :=
  match count args t.status with
  | .error message => t.refuse message
  | .ok n =>
    match Turn.unwind isReturnTarget t.shell.stack t with
    | ([], t) => (t.withStatus n).exit (n % 256)
    | (stack, t) => (t.withStack stack).withStatus n

def loopControl (goOn : Bool) (t : Turn) (args : List Text) : Turn :=
  match count args 1 with
  | .error message => t.refuse message
  | .ok n =>
    if n = 0 then t.refuse ("Illegal number: ".toList ++ args.headD [])
    else Turn.leaveLoops goOn (min n t.loops) (t.withStatus 0)

def quoted : Text → Text :=
  fun t => go (2 * t.length + 1) t
where
  go : Nat → Text → Text
    | 0, _ => []
    | fuel + 1, t =>
      let plain := t.takeWhile (· ≠ '\'')
      let rest := t.drop plain.length
      let marks := rest.takeWhile (· == '\'')
      let after := rest.drop marks.length
      ['\''] ++ plain ++ ['\''] ++
        if rest.isEmpty then []
        else ['"'] ++ marks ++ ['"'] ++ if after.isEmpty then [] else go fuel after

end Builtin

end Machine

end Proctor
