import Proctor.Shell.Text

/-!
# Signals

Signals have numbers and names. Two of them cannot be helped: one that kills and one that stops.
-/

set_option autoImplicit false

namespace Proctor

open Shell

namespace Signal

def names : List String :=
  ["HUP", "INT", "QUIT", "ILL", "TRAP", "ABRT", "BUS", "FPE", "KILL", "USR1", "SEGV", "USR2",
   "PIPE", "ALRM", "TERM", "16", "CHLD", "CONT", "STOP", "TSTP", "TTIN", "TTOU", "URG", "XCPU",
   "XFSZ", "VTALRM", "PROF", "WINCH", "IO", "PWR", "SYS", "32", "33", "RTMIN"] ++
   (List.range 15).map (fun n => "RTMIN+" ++ toString (n + 1)) ++
   (List.range 14).map (fun n => "RTMAX-" ++ toString (14 - n)) ++ ["RTMAX"]

def descriptions : List String :=
  ["Hangup", "Interrupt", "Quit", "Illegal instruction", "Trace/breakpoint trap", "Aborted",
   "Bus error", "Floating point exception", "Killed", "User defined signal 1", "Segmentation fault",
   "User defined signal 2", "Broken pipe", "Alarm clock", "Terminated", "Stack fault",
   "Child exited", "Continued", "Stopped (signal)", "Stopped", "Stopped (tty input)",
   "Stopped (tty output)", "Urgent I/O condition", "CPU time limit exceeded",
   "File size limit exceeded", "Virtual timer expired", "Profiling timer expired",
   "Window changed", "I/O possible", "Power failure", "Bad system call"]

def interrupt : Nat := 2
def quit : Nat := 3
def kill : Nat := 9
def pipe : Nat := 13
def terminate : Nat := 15
def continue_ : Nat := 18
def stop : Nat := 19

def ofText? (t : Text) : Option Nat :=
  match Text.decimal? t with
  | some n => if n ≤ 64 then some n else none
  | none =>
    let name := String.ofList (t.map Char.toUpper)
    if name = "EXIT" then some 0 else (names.findIdx? (· == name)).map (· + 1)

def name (n : Nat) : String := (names[n - 1]?).getD (toString n)

def description (n : Nat) : String :=
  match descriptions[n - 1]? with
  | some text => text
  | none =>
    if n < 34 then "Unknown signal " ++ toString n else "Real-time signal " ++ toString (n - 34)

/-- Signals that mean nothing unless something is to be done at them. Without a terminal, those that
come from one are among them. -/
def isHarmless (n : Nat) : Bool := n = 17 || n = 18 || (20 ≤ n && n ≤ 23) || n = 28

def cannotBeHelped (n : Nat) : Bool := n = kill || n = stop

end Signal

end Proctor
