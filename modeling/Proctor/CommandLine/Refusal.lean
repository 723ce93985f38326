import Proctor.CommandLine.Help
import Proctor.Text.Terminal

/-!
# Why a command line is not followed

It may ask for help or for the version, or it may be wrong. A wrong one is answered with one line,
in which the arguments are shown without their terminal sequences.
-/

set_option autoImplicit false

namespace Proctor

namespace CommandLine

inductive NumberFault where
  | empty
  | badDigit
  | tooLarge
  deriving DecidableEq, Repr

def NumberFault.message : NumberFault → String
  | .empty => "cannot parse integer from empty string"
  | .badDigit => "invalid digit found in string"
  | .tooLarge => "number too large to fit in target type"

inductive ValueFault where
  /-- A value or a test name is not text; which one is not told. -/
  | notText
  | badNumber (value : String) (setting : Setting) (fault : NumberFault)
  deriving DecidableEq, Repr

inductive Refusal where
  | help
  | version
  | unknown (argument : String)
  | repeatedSetting (setting : Setting)
  | repeatedFlag (flag : Flag)
  | valueMissing (setting : Setting)
  | valueUnexpected (value : String) (flag : Flag)
  | valueInvalid (fault : ValueFault)
  deriving DecidableEq, Repr

def firstLine (s : String) : String :=
  let line := s.toList.takeWhile (· ≠ '\n')
  if line.length < s.length ∧ line.getLast? = some '\r' then String.ofList line.dropLast
  else String.ofList line

namespace Refusal

def complaint : Refusal → String
  | .help => ""
  | .version => ""
  | .unknown argument => "unexpected argument '" ++ Terminal.plain argument ++ "' found"
  | .repeatedSetting s => "the argument '" ++ s.usage ++ "' cannot be used multiple times"
  | .repeatedFlag f => "the argument '" ++ f.usage ++ "' cannot be used multiple times"
  | .valueMissing s => "a value is required for '" ++ s.usage ++ "' but none was supplied"
  | .valueUnexpected value f =>
    "unexpected value '" ++ Terminal.plain value ++ "' for '" ++ f.usage ++
      "' found; no more were expected"
  | .valueInvalid .notText => "invalid UTF-8 was detected in one or more arguments"
  | .valueInvalid (.badNumber value s fault) =>
    "invalid value '" ++ Terminal.plain value ++ "' for '" ++ s.usage ++ "': " ++ fault.message

def message : Refusal → String
  | .help => helpText
  | .version => versionText
  | r => firstLine ("error: " ++ r.complaint)

/-- Whether the command line asks to be told something, which is no error. -/
def isRequest : Refusal → Bool
  | .help => true
  | .version => true
  | _ => false

def exitCode (r : Refusal) : Nat := if r.isRequest then 0 else 2

end Refusal

end CommandLine

end Proctor
