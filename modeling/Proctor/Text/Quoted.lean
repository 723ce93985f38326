import Proctor.Text.Unprintable

/-!
# Quoted text

A text between double quotes on one line. Six characters have an escape of their own, the
unprintable ones are written by number, and every other character stands for itself.
-/

set_option autoImplicit false

namespace Proctor.Quoted

def numbered (c : Char) : List Char :=
  '\\' :: 'u' :: '\x7b' :: Nat.toDigits 16 c.toNat ++ ['\x7d']

def escape (c : Char) : List Char :=
  if c = '\x00' then ['\\', '0']
  else if c = '\t' then ['\\', 't']
  else if c = '\n' then ['\\', 'n']
  else if c = '\r' then ['\\', 'r']
  else if c = '"' then ['\\', '"']
  else if c = '\\' then ['\\', '\\']
  else if unprintable c then numbered c
  else [c]

def body (s : List Char) : List Char :=
  s.flatMap escape

def encode (s : List Char) : List Char :=
  '"' :: body s ++ ['"']

end Proctor.Quoted

namespace Proctor

def quoted (s : String) : String :=
  String.ofList (Quoted.encode s.toList)

end Proctor
