import Proctor.Tool.Plain

/-!
# Paths without links and dots

A path is followed piece by piece into one that starts at the root and has neither links nor dots in
it. How much of it has to be there depends on who asks.
-/

set_option autoImplicit false

namespace Proctor

namespace Tool

open Shell

inductive Presence where
  | all
  | allButLast
  | nothing
  deriving DecidableEq, Repr

namespace Canonical

def render (names : List Text) : Text :=
  if names.isEmpty then ['/'] else names.flatMap fun name => '/' :: name

def names (t : Text) : List Text := (Text.split '/' t).filter fun p => !p.isEmpty

/-- Follows the pieces of a path, given the names so far, last first. -/
def follow (f : Files) (presence : Presence) : Nat → Nat → List Text → List Text →
    Except Cause (List Text)
  | 0, _, _, _ => .error .tooManyLinks
  | _, _, before, [] => .ok before
  | fuel + 1, links, before, piece :: rest =>
    let goOn (before : List Text) := follow f presence fuel links before rest
    if piece.isEmpty || piece = ['.'] then goOn before
    else if piece = ['.', '.'] then goOn before.tail
    else
      let after := piece :: before
      match f.nodeItself (pathOf (render after.reverse)) with
      | .error cause =>
        if presence = .nothing then goOn after
        else if presence = .allButLast && cause = .notFound && rest.all List.isEmpty then .ok after
        else .error cause
      | .ok node =>
        match node.body with
        | .link target =>
          match links with
          | 0 => if presence = .nothing then goOn after else .error .tooManyLinks
          | links + 1 =>
            let target := target.bytes.toText
            let before := if target.head? == some '/' then [] else before
            follow f presence fuel links before (Text.split '/' target ++ rest)
        | .directory .. => goOn after
        | _ =>
          if rest.isEmpty || presence = .nothing then goOn after else .error .notDirectory

end Canonical

open Canonical in
def canonical (f : Files) (presence : Presence) (t : Text) : Except Cause (List Text) :=
  if t.isEmpty then .error .notFound
  else
    let start := if t.head? == some '/' then [] else names (Plain.workingDirectory f)
    (follow f presence (100000 + t.length) Files.linkLimit start.reverse (Text.split '/' t)).map
      List.reverse

def withoutDots (f : Files) (t : Text) : List Text :=
  let start := if t.head? == some '/' then [] else Canonical.names (Plain.workingDirectory f)
  ((Canonical.names t).foldl (fun before piece =>
    if piece = ['.'] then before
    else if piece = ['.', '.'] then before.tail
    else piece :: before) start.reverse).reverse

def wayTo (start target : List Text) : Text :=
  match start, target with
  | [], [] => ['.']
  | s :: ss, t :: ts => if s = t then wayTo ss ts else up (s :: ss) (t :: ts)
  | start, target => up start target
where
  up (start target : List Text) : Text :=
    Plain.joined ['/'] (start.map (fun _ => ['.', '.']) ++ target)

end Tool

end Proctor
