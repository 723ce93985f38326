import Proctor.Machine.Process
import Proctor.Signal

/-!
# Sending signals

A signal ends a process unless the process ignores it, has something to do at it, or the signal is
one that means nothing by itself.
-/

set_option autoImplicit false

namespace Proctor

namespace Machine

open Shell

inductive Reaction where
  | none
  | dies
  | stops
  | goesOn
  | notes
  deriving DecidableEq, Repr

def reaction (p : Process) (signal : Nat) : Reaction :=
  let default : Reaction :=
    if signal = 0 then .none
    else if signal = Signal.continue_ then .goesOn
    else if Signal.isHarmless signal then .none
    else if signal = Signal.stop then .stops
    else .dies
  if Signal.cannotBeHelped signal then default
  else if p.ignored.contains signal then .none
  else
    match p.task with
    | .shell s => if (s.traps.lookup signal).isSome then .notes else default
    | _ => default

def deliver (m : Machine) (p : Process) (signal : Nat) : Machine :=
  match reaction p signal with
  | .none => m
  | .dies => m.finish p.pid (.killed signal)
  | .stops => m.update { p with stopped := true }
  | .goesOn => m.update { p with stopped := false }
  | .notes =>
    match p.task with
    | .shell s => m.update { p with task := .shell { s with pending := s.pending ++ [signal] } }
    | _ => m

def isBelow (m : Machine) (top : Nat) : Nat → Nat → Bool
  | 0, _ => false
  | fuel + 1, pid =>
    match m.processes.find? fun p => p.pid = pid with
    | none => false
    | some p => p.parent = top || m.isBelow top fuel p.parent

def sendBelow (m : Machine) (top signal : Nat) : Machine :=
  (m.processes.filter fun p => m.isBelow top (m.processes.length + 1) p.pid).foldl
    (fun n p => n.deliver p signal) m

def send (m : Machine) (pid signal : Nat) : Bool × Machine :=
  match m.processes.find? fun p => p.pid = pid with
  | none => (false, m)
  | some p => (true, m.deliver p signal)

end Machine

end Proctor
