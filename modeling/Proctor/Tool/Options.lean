import Proctor.Tool.Quoting
import Proctor.Tool.Work

/-!
# Options of tools

Options are letters after a dash, or names after two dashes, which may be cut short. They may stand
anywhere before a lone pair of dashes, unless a tool says that they come first.
-/

set_option autoImplicit false

namespace Proctor

namespace Tool

open Shell

inductive Taking where
  | nothing
  | something
  | maybe
  deriving DecidableEq, Repr

structure Named where
  name : String
  key : String
  takes : Taking := .nothing
  deriving DecidableEq, Repr

structure Usage where
  /-- Letters, with a colon after those that take an argument and two after those that may. -/
  letters : String
  names : List Named := []
  /-- Options come before everything else. -/
  optionsFirst : Bool := false
  deriving Repr

structure Arguments where
  options : List (String × Text) := []
  operands : List Text := []
  deriving Inhabited

namespace Usage

def letter? (u : Usage) (c : Char) : Option Taking :=
  if c == ':' then none
  else
    match u.letters.toList.dropWhile (· ≠ c) with
    | [] => none
    | _ :: ':' :: ':' :: _ => some .maybe
    | _ :: ':' :: _ => some .something
    | _ => some .nothing

def dashed (name : String) : Text := "'--".toList ++ name.toList ++ ['\'']

def named? (u : Usage) (name : Text) : Except Text Named :=
  let fitting := u.names.filter fun n => name.isPrefixOf n.name.toList
  match fitting.find? fun n => n.name.toList = name with
  | some n => .ok n
  | none =>
    match fitting with
    | [] => .error ("unrecognized option ".toList ++ dashed (String.ofList name))
    | n :: others =>
      if others.all fun o => o.key = n.key && o.takes = n.takes then .ok n
      else
        .error ("option ".toList ++ dashed (String.ofList name) ++
          " is ambiguous; possibilities:".toList ++
          fitting.flatMap fun n => ' ' :: dashed n.name)

/-- Reads the letters of an argument. The rest of them, or the next argument, may belong to one. -/
def takeLetters (u : Usage) : Text → List Text → Except Text (List (String × Text) × List Text)
  | [], rest => .ok ([], rest)
  | c :: more, rest =>
    let key := String.singleton c
    match u.letter? c with
    | none => .error ("invalid option -- ".toList ++ ['\'', c, '\''])
    | some .nothing => do
      let (options, rest) ← takeLetters u more rest
      return ((key, []) :: options, rest)
    | some .maybe => .ok ([(key, more)], rest)
    | some .something =>
      match more, rest with
      | [], [] => .error ("option requires an argument -- ".toList ++ ['\'', c, '\''])
      | [], argument :: rest => .ok ([(key, argument)], rest)
      | more, rest => .ok ([(key, more)], rest)

def takeName (u : Usage) (word : Text) (rest : List Text) :
    Except Text ((String × Text) × List Text) := do
  let (name, value) := Text.cutAt (· == '=') word
  let n ← u.named? name
  match n.takes, value, rest with
  | .nothing, none, rest => return ((n.key, []), rest)
  | .nothing, some _, _ => .error ("option ".toList ++ dashed n.name ++
      " doesn't allow an argument".toList)
  | _, some value, rest => return ((n.key, value), rest)
  | .maybe, none, rest => return ((n.key, []), rest)
  | .something, none, argument :: rest => return ((n.key, argument), rest)
  | .something, none, [] => .error ("option ".toList ++ dashed n.name ++
      " requires an argument".toList)

def read (u : Usage) : Nat → List Text → Except Text Arguments
  | 0, _ => .ok {}
  | _, [] => .ok {}
  | fuel + 1, argument :: rest =>
    match argument with
    | ['-', '-'] => .ok { operands := rest }
    | '-' :: '-' :: word => do
      let (option, rest) ← u.takeName word rest
      let more ← u.read fuel rest
      return { more with options := option :: more.options }
    | '-' :: c :: letters => do
      let (options, rest) ← u.takeLetters (c :: letters) rest
      let more ← u.read fuel rest
      return { more with options := options ++ more.options }
    | operand =>
      if u.optionsFirst then .ok { operands := operand :: rest }
      else do
        let more ← u.read fuel rest
        return { more with operands := operand :: more.operands }

end Usage

namespace Arguments

def has (a : Arguments) (key : String) : Bool := a.options.any fun o => o.1 = key

def get? (a : Arguments) (key : String) : Option Text :=
  ((a.options.filter fun o => o.1 = key).getLast?).map Prod.snd

def getAll (a : Arguments) (key : String) : List Text :=
  (a.options.filter fun o => o.1 = key).map Prod.snd

def lastOf (a : Arguments) (keys : List String) : Option String :=
  ((a.options.filter fun o => keys.contains o.1).getLast?).map Prod.fst

def sources (a : Arguments) : List Text := if a.operands.isEmpty then [['-']] else a.operands

end Arguments

namespace Work

def arguments (u : Usage) (status : Nat := 1) : Work Arguments := do
  let q ← request
  match u.read (q.arguments.length + 1) q.arguments with
  | .ok a => return a
  | .error message => misuse status message

end Work

end Tool

end Proctor
