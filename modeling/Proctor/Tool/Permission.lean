import Proctor.Shell.Text

/-!
# Permissions in words

A mode is given in octal digits, or as changes to the permissions of the owner, the group and the
others. Changes for nobody in particular leave out what the mask keeps from new files.
-/

set_option autoImplicit false

namespace Proctor

namespace Tool

open Shell

namespace Permission

structure Setting where
  mode : Nat
  isDirectory : Bool := false
  mask : Nat := 0o022

def lor (a b : Nat) : Nat := Nat.lor a b

def without (a b : Nat) : Nat := a - Nat.land a b

def classBits? : Char → Option Nat
  | 'u' => some 0o4700
  | 'g' => some 0o2070
  | 'o' => some 0o1007
  | 'a' => some 0o7777
  | _ => none

def everywhere (bits : Nat) : Nat := bits * 64 + bits * 8 + bits

def letterBits? (s : Setting) : Char → Option Nat
  | 'r' => some 0o444
  | 'w' => some 0o222
  | 'x' => some 0o111
  | 'X' => some (if s.isDirectory || Nat.land s.mode 0o111 ≠ 0 then 0o111 else 0)
  | 's' => some 0o6000
  | 't' => some 0o1000
  | _ => none

def copiedBits? (s : Setting) : Char → Option Nat
  | 'u' => some (everywhere (Nat.land (s.mode / 64) 7))
  | 'g' => some (everywhere (Nat.land (s.mode / 8) 7))
  | 'o' => some (everywhere (Nat.land s.mode 7))
  | _ => none

/-- Applies operators with their letters in turn. Without classes, the mask is left out. -/
def actions (classes : Option Nat) : Nat → Setting → Text → Option Setting
  | 0, _, _ => none
  | _, s, [] => some s
  | fuel + 1, s, operator :: rest =>
    if operator ≠ '+' && operator ≠ '-' && operator ≠ '=' then none
    else
      let (bits, rest) : Nat × Text :=
        match rest with
        | c :: more =>
          match copiedBits? s c with
          | some bits => (bits, more)
          | none =>
            let letters := rest.takeWhile fun c => (letterBits? s c).isSome
            (letters.foldl (fun n c => lor n ((letterBits? s c).getD 0)) 0,
              rest.drop letters.length)
        | [] => (0, [])
      let affected := classes.getD 0o7777
      let bits := Nat.land bits affected
      let bits := if classes.isNone then without bits s.mask else bits
      let kept := if s.isDirectory then without affected 0o6000 else affected
      let mode :=
        if operator = '+' then lor s.mode bits
        else if operator = '-' then without s.mode bits
        else lor (without s.mode kept) bits
      actions classes fuel { s with mode } rest

def clauses : List Text → Setting → Option Setting
  | [], s => some s
  | clause :: rest, s => do
    let named := clause.takeWhile fun c => (classBits? c).isSome
    let classes :=
      if named.isEmpty then none
      else some (named.foldl (fun n c => lor n ((classBits? c).getD 0)) 0)
    let operators := clause.drop named.length
    if operators.isEmpty then none
    else clauses rest (← actions classes (clause.length + 1) s operators)

/-- The mode that a text asks for. A directory keeps the bits for its groups unless all five digits
are given. -/
def mode? (s : Setting) (t : Text) : Option Nat :=
  if !t.isEmpty && t.all fun c => '0' ≤ c && c ≤ '7' then
    let mode := t.foldl (fun n c => n * 8 + Text.digitValue c) 0
    if 0o7777 < mode then none
    else if s.isDirectory && t.length < 5 then some (lor mode (Nat.land s.mode 0o6000))
    else some mode
  else if t.isEmpty then none
  else (clauses (Text.split ',' t) s).map Setting.mode

def letters (mode : Nat) : Text :=
  let bit (n : Nat) (c : Char) : Char := if Nat.land mode n ≠ 0 then c else '-'
  let run (execute special : Nat) (both alone : Char) : Char :=
    if Nat.land mode special ≠ 0 then if Nat.land mode execute ≠ 0 then both else alone
    else bit execute 'x'
  [bit 0o400 'r', bit 0o200 'w', run 0o100 0o4000 's' 'S', bit 0o040 'r', bit 0o020 'w',
   run 0o010 0o2000 's' 'S', bit 0o004 'r', bit 0o002 'w', run 0o001 0o1000 't' 'T']

def octal (mode width : Nat) : Text :=
  let digits := Nat.toDigits 8 mode
  List.replicate (width - digits.length) '0' ++ digits

end Permission

end Tool

end Proctor
