import Proctor.Machine.Builtin.Basic

/-!
# Commands about the place of a shell

Where it works, and the permissions that its new files do not get. The shell remembers the path by
which it came to its directory, and dots go back along that path.
-/

set_option autoImplicit false

namespace Proctor

namespace Machine

open Shell Tool

namespace Builtin

def follow (steps : List Text) : List Text → List Text
  | [] => steps
  | piece :: rest =>
    if piece.isEmpty || piece = ['.'] then follow steps rest
    else if piece = ['.', '.'] then follow steps.tail rest
    else follow (piece :: steps) rest

/-- The path that leads from a directory along another path, with dots resolved. Two slashes at the
start stay two. -/
def pathFrom (directory target : Text) : Text :=
  let isDouble (t : Text) : Bool :=
    t.take 2 = ['/', '/'] && t[2]? != some '/'
  let isAbsolute := target.head? == some '/'
  let start : Text :=
    if isDouble (if isAbsolute then target else directory) then ['/', '/'] else ['/']
  let before := if isAbsolute then [] else follow [] (Text.split '/' directory)
  start ++ joinWith ['/'] (follow before (Text.split '/' target)).reverse

def isDirect (target : Text) : Bool :=
  target.head? == some '/' ||
    match Text.split '/' target with
    | first :: _ => first = ['.'] || first = ['.', '.']
    | [] => false

def enter (t : Turn) (physical : Bool) (target : Text) : Option Turn :=
  let f := t.files
  let directory := t.context.directory
  let path := if physical || directory.isEmpty then target else pathFrom directory target
  match f.number true ⟨path.toBytes⟩ with
  | .error _ => none
  | .ok number =>
    let node := f.get number
    if !node.isDirectory || !node.permits Mode.search then none
    else
      let here := ((f.pathTo? number).map fun p => p.bytes.toText).getD []
      let now := if physical then here else path
      let keep (c : Context) (name : String) (value : Text) : Context :=
        (c.setVariable name.toList value).exportVariable name.toList
      let c := keep (keep t.context "OLDPWD" directory) "PWD" now
      some ({ t with process := { t.process with here := number } }.withContext
        { c with directory := now })

def findDirectory (f : Files) (target : Text) : List Text → Text × Bool
  | [] => (target, false)
  | dir :: rest =>
    let path := if dir.isEmpty then target else dir ++ '/' :: target
    if f.isDirectory ⟨path.toBytes⟩ then (path, !dir.isEmpty) else findDirectory f target rest

def cd : Turn → List Text → Turn :=
  withOptions "LP" fun t given =>
    let physical := (given.options.getLast?.map Prod.fst) == some 'P'
    let (target, isBack) : Text × Bool :=
      match given.rest with
      | [] => ((t.context.binding? "HOME".toList).getD [], false)
      | ['-'] :: _ => ((t.context.binding? "OLDPWD".toList).getD [], true)
      | target :: _ => (target, false)
    let (place, isTold) : Text × Bool :=
      if isDirect target then (target, false)
      else
        let target := if target.isEmpty then ['.'] else target
        let dirs := (t.context.binding? "CDPATH".toList).getD []
        findDirectory t.files target (if dirs.isEmpty then [] else Text.split ':' dirs)
    match enter t physical place with
    | none => t.refuse ("can't cd to ".toList ++ target)
    | some t =>
      let t := t.withStatus 0
      if isBack || isTold then t.say (t.context.directory ++ ['\n']) else t

def physicalPath (t : Turn) : Text :=
  ((t.files.pathTo? t.process.here).map fun p => p.bytes.toText).getD []

def pwd : Turn → List Text → Turn :=
  withOptions "LP" fun t given =>
    let physical := (given.options.getLast?.map Prod.fst) == some 'P'
    (t.withStatus 0).say ((if physical then physicalPath t else t.context.directory) ++ ['\n'])

/-! ### Permissions of new files -/

def letters (bits : Nat) : Text :=
  (if Nat.land bits 4 ≠ 0 then ['r'] else []) ++ (if Nat.land bits 2 ≠ 0 then ['w'] else []) ++
    (if Nat.land bits 1 ≠ 0 then ['x'] else [])

def maskInWords (mask : Nat) : Text :=
  let left (shift : Nat) : Text := letters (7 - Nat.land (mask / shift) 7)
  "u=".toList ++ left 64 ++ ",g=".toList ++ left 8 ++ ",o=".toList ++ left 1

def octal (n : Nat) (width : Nat) : Text :=
  let digits := Nat.toDigits 8 n
  List.replicate (width - digits.length) '0' ++ digits

def permissionBits (mode : Nat) (c : Char) : Option Nat :=
  let all (bits : Nat) : Nat := bits * 64 + bits * 8 + bits
  match c with
  | 'r' => some (all 4)
  | 'w' => some (all 2)
  | 'x' => some (all 1)
  | 'X' => some (if Nat.land mode 0o111 ≠ 0 then all 1 else 0)
  | 's' => some 0
  | 't' => some 0
  | 'u' => some (all (Nat.land (mode / 64) 7))
  | 'g' => some (all (Nat.land (mode / 8) 7))
  | 'o' => some (all (Nat.land mode 7))
  | _ => none

def classBits : Char → Option Nat
  | 'u' => some 0o700
  | 'g' => some 0o070
  | 'o' => some 0o007
  | 'a' => some 0o777
  | _ => none

def applyChange (who : Nat) : Nat → Nat → Text → Option Nat
  | 0, _, _ => none
  | _, mode, [] => some mode
  | fuel + 1, mode, operator :: rest =>
    if operator ≠ '+' && operator ≠ '-' && operator ≠ '=' then none
    else
      let named := rest.takeWhile fun c => (permissionBits mode c).isSome
      let bits := Nat.land who
        (named.foldl (fun n c => Nat.lor n ((permissionBits mode c).getD 0)) 0)
      let without (bits : Nat) : Nat := mode - Nat.land mode bits
      let mode :=
        if operator = '+' then Nat.lor mode bits
        else if operator = '-' then without bits
        else Nat.lor (without who) bits
      applyChange who fuel mode (rest.drop named.length)

def changeMode (mode : Nat) : List Text → Option Nat
  | [] => some mode
  | [[]] => some mode
  | change :: rest => do
    let classes := change.takeWhile fun c => (classBits c).isSome
    let who := classes.foldl (fun n c => Nat.lor n ((classBits c).getD 0)) 0
    let who := if classes.isEmpty then 0o777 else who
    let actions := change.drop classes.length
    if actions.isEmpty then none
    else changeMode (← applyChange who (change.length + 1) mode actions) rest

def umask : Turn → List Text → Turn :=
  withOptions "S" fun t given =>
    let mask := t.process.mask
    let t := t.withStatus 0
    let set (mask : Nat) : Turn := { t with process := { t.process with mask } }
    match given.rest with
    | [] =>
      t.say ((if given.options.isEmpty then octal mask 4 else maskInWords mask) ++ ['\n'])
    | mode :: _ =>
      if (mode.head?.map Char.isDigit).getD false then
        if mode.all fun c => '0' ≤ c && c ≤ '7' then
          set (mode.foldl (fun n c => n * 8 + Text.digitValue c) 0 % 512)
        else t.refuse ("Illegal number: ".toList ++ mode)
      else
        match changeMode (0o777 - mask) (Text.split ',' mode) with
        | some left => set (0o777 - left)
        | none => t.refuse ("Illegal mode: ".toList ++ mode)

end Builtin

end Machine

end Proctor
