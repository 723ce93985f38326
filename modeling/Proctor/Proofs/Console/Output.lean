import Proctor.Console
import Proctor.Proofs.Suite.Events
import Proctor.Proofs.Text.Utf8.Encoding

/-!
# What the console puts out

At every event the console prints one text, and a sink keeps as much of all it was offered as it has
room for. So the output of a run is the text of its events, cut where the room ends. Nothing of this
comes back to the run.
-/

set_option autoImplicit false

namespace Proctor.Console

open Suite (Event hear events run verdicts calls untimed)

variable {ω ρ σ : Type}

def text (verbose : Bool) : Event → String
  | .collected ids => collectedLine ids
  | .started id => startedMark verbose id
  | .completed verdict => completedMark verbose verdict.passed
  | .finished summary => finishedLine verbose summary
  | .aborted => abortedLine

def printed (verbose : Bool) (es : List Event) : Bytes :=
  es.flatMap fun e => Bytes.ofString (text verbose e)

def offered (room : Option Nat) (bytes : Bytes) : Sink :=
  match room with
  | none => { written := bytes }
  | some n => { written := bytes.take n, room := some (n - bytes.length) }

theorem offered_nil (room : Option Nat) : offered room [] = { room := room } := by
  rcases room with _ | n
  · rfl
  · simp [offered]

theorem put_offered (room : Option Nat) (bytes more : Bytes) :
    (offered room bytes).put more = offered room (bytes ++ more) := by
  rcases room with _ | n
  · rfl
  · simp [offered, Sink.put, List.take_append, Nat.sub_sub]

theorem foldl_offered (verbose : Bool) (room : Option Nat) (es : List Event) (bytes : Bytes) :
    es.foldl (hear (listener verbose)) (offered room bytes) =
      offered room (bytes ++ printed verbose es) := by
  induction es generalizing bytes with
  | nil => simp [printed]
  | cons e es ih =>
    have hstep : hear (listener verbose) (offered room bytes) e =
        offered room (bytes ++ Bytes.ofString (text verbose e)) := by
      rw [← put_offered]
      cases e <;> rfl
    rw [List.foldl_cons, hstep, ih, printed, printed, List.flatMap_cons, List.append_assoc]

def reporter (verbose : Bool) (policy : ExitPolicy) (start : Nat) (room : Option Nat) :
    Reporter Sink where
  listener := listener verbose
  policy := policy
  start := start
  state := { room := room }

/-- The output of a run is what was printed at its events, as far as there was room. -/
theorem run_output (c : Collaborators ω) (settings : Settings) (names : List String)
    (verbose : Bool) (policy : ExitPolicy) (start : Nat) (room : Option Nat) (w : ω) :
    (run c settings names (reporter verbose policy start room) w).state =
      offered room (printed verbose
        (events c settings names (reporter verbose policy start room) w)) := by
  rw [Suite.run_state]
  change List.foldl (hear (listener verbose)) { room := room } _ = _
  rw [← offered_nil, foldl_offered]
  rfl

theorem run_written (c : Collaborators ω) (settings : Settings) (names : List String)
    (verbose : Bool) (policy : ExitPolicy) (start : Nat) (w : ω) :
    (run c settings names (reporter verbose policy start none) w).state.written =
      printed verbose (events c settings names (reporter verbose policy start none) w) := by
  rw [run_output]
  rfl

/-- A run does not depend on how it is presented: for any two listeners, and whatever the clock
shows, it makes the same calls and comes to the same verdicts and, but for the time it took, to the
same result. A console that can put out only `n` bytes puts out the first `n` of what it puts out
otherwise, if the run takes the same time. -/
theorem presentation_decides_nothing (c : Collaborators ω) (clock : ω → Nat) (settings : Settings)
    (names : List String) (policy : ExitPolicy) (start start' : Nat) (l : Listener ρ) (state : ρ)
    (l' : Listener σ) (state' : σ) (verbose : Bool) (n : Nat) (w : ω) :
    let c' := { c with now := clock }
    let r : Reporter ρ := { listener := l, policy := policy, start := start, state := state }
    let r' : Reporter σ := { listener := l', policy := policy, start := start', state := state' }
    let wide := run c settings names (reporter verbose policy start none) w
    let narrow := run c' settings names (reporter verbose policy start' (some n)) w
    (calls c settings names r w = calls c' settings names r' w ∧
      verdicts c settings names r w = verdicts c' settings names r' w ∧
      untimed (run c settings names r w).result = untimed (run c' settings names r' w).result) ∧
    (wide.result.map Summary.duration = narrow.result.map Summary.duration →
      narrow.state.written = wide.state.written.take n) := by
  intro c' r r' wide narrow
  refine ⟨Suite.run_presentation c clock settings names r r' w rfl rfl, ?_⟩
  intro hduration
  have hsame := (Suite.run_presentation c clock settings names (reporter verbose policy start none)
    (reporter verbose policy start' (some n)) w rfl rfl).2.2
  have hresult : wide.result = narrow.result := Suite.eq_of_untimed hsame hduration
  have hevents : events c settings names (reporter verbose policy start none) w =
      events c' settings names (reporter verbose policy start' (some n)) w :=
    Suite.events_presentation c clock settings names _ _ w rfl hresult
  rw [show wide.state = _ from run_output c settings names verbose policy start none w,
    show narrow.state = _ from run_output c' settings names verbose policy start' (some n) w,
    hevents]
  rfl

/-- Room for eight bytes ends between the two bytes of a character. -/
theorem console_cut_within_character :
    let c : Collaborators Nat :=
      { discover := fun _ _ w => (.ok ["é"], w + 1)
        load := fun _ id w => (.ok ⟨id, .ofString id, "", "1"⟩, w + 1)
        build := fun case w => (.ok case.path, w + 1)
        execute := fun _ w => (.ok { stdout := "1" }, w + 1)
        now := fun w => w }
    let wide := run c {} [] (reporter false .ignore 0 none) 0
    let narrow := run { c with now := fun w => w + 5 } {} [] (reporter false .ignore 5 (some 8)) 0
    wide.result.map Summary.duration = narrow.result.map Summary.duration ∧
    wide.state.written = Bytes.ofString "tests: é\n.\n" ∧
    narrow.state.written = [0x74, 0x65, 0x73, 0x74, 0x73, 0x3A, 0x20, 0xC3] := by
  intro c wide narrow
  have hduration : wide.result.map Summary.duration = narrow.result.map Summary.duration := rfl
  have hcut := (presentation_decides_nothing c (fun w => w + 5) {} [] .ignore 0 5 (listener false)
    {} (listener false) {} false 8 0).2 hduration
  have hwide : wide.state.written = Bytes.ofString "tests: é\n.\n" := by decide
  refine ⟨hduration, hwide, ?_⟩
  rw [show narrow.state.written = _ from hcut, show List.take 8 wide.state.written = _ from
    congrArg (List.take 8) hwide]
  decide

end Proctor.Console
