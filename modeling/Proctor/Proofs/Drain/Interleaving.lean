import Mathlib.Data.List.Induction
import Proctor.Drain

/-!
# Draining a pipe from two sides

The pump reads and takes note of what it has read; the collector waits to hear how the reading ended,
perhaps gives up, and takes what is there. What the pump has noted and what it has sent travel by
different ways, and the two sides act in any order. Whatever that order is, the collector gets the
parts in the order in which they were read, none twice: all of them if it has heard of the end, and
those noted so far if it has given up.
-/

set_option autoImplicit false

namespace Proctor

namespace Drain

def chunks : List Attempt → List Bytes
  | [] => []
  | .part bytes :: rest => bytes :: chunks rest
  | .interrupted :: rest => chunks rest
  | .ended :: _ => []
  | .failed _ :: _ => []

def ending : List Attempt → Option (Except Cause Unit)
  | [] => none
  | .part _ :: rest => ending rest
  | .interrupted :: rest => ending rest
  | .ended :: _ => some (.ok ())
  | .failed cause :: _ => some (.error cause)

def stream (attempts : List Attempt) : Bytes := (chunks attempts).flatten

inductive Collector where
  | waiting
  /-- It has heard how the reading ended, or has given up. -/
  | decided (heard : Option (Except Cause Unit))
  | returned (heard : Option (Except Cause Unit)) (answer : Except Cause Bytes)

/-- Both sides of a drain. An attempt that the pump has made but not yet acted on is its own; the
drain is shared, and its result is the message that has been sent. -/
structure Parties where
  ahead : List Attempt
  held : Option Attempt := none
  drain : Drain := {}
  connected : Bool := true
  collector : Collector := .waiting

def Parties.start : Option (List Attempt) → Parties
  | some attempts => { ahead := attempts }
  | none => { ahead := [], held := some .ended }

/-- What one side can do in one go. The pump reads, handles what it has read, and hangs up; the
collector receives a message, finds its time over or the other side gone, and takes what is there. -/
inductive Act where
  | read
  | handle
  | hangUp
  | receive
  | expire
  | miss
  | take
  deriving DecidableEq, Repr

def Parties.perform (limited : Bool) (s : Parties) : Act → Option Parties
  | .read =>
    match s.held, s.drain.result, s.ahead with
    | none, none, a :: ahead => some { s with held := some a, ahead }
    | _, _, _ => none
  | .handle => s.held.map fun a => { s with held := none, drain := s.drain.pump a }
  | .hangUp =>
    if s.held.isNone && s.drain.result.isSome && s.connected then
      some { s with connected := false }
    else none
  | .receive =>
    match s.collector, s.drain.result with
    | .waiting, some result => some { s with collector := .decided (some result) }
    | _, _ => none
  | .expire =>
    match s.collector, limited with
    | .waiting, true => some { s with collector := .decided none }
    | _, _ => none
  | .miss =>
    match s.collector, s.connected, s.drain.result with
    | .waiting, false, none => some { s with collector := .decided none }
    | _, _, _ => none
  | .take =>
    match s.collector with
    | .decided heard =>
      let (answer, drain) := s.drain.collect heard
      some { s with collector := .returned heard answer, drain }
    | _ => none

def Parties.run (limited : Bool) (acts : List Act) (s : Parties) : Option Parties :=
  acts.foldlM (Parties.perform limited) s

inductive Parties.Step (limited : Bool) (s : Parties) : Act → Parties → Prop
  | read {a : Attempt} {ahead : List Attempt} (hheld : s.held = none)
      (hresult : s.drain.result = none) (hahead : s.ahead = a :: ahead) :
      Step limited s .read { s with held := some a, ahead }
  | handle {a : Attempt} (hheld : s.held = some a) :
      Step limited s .handle { s with held := none, drain := s.drain.pump a }
  | hangUp (hheld : s.held = none) (hresult : s.drain.result.isSome)
      (hconnected : s.connected = true) :
      Step limited s .hangUp { s with connected := false }
  | receive {result : Except Cause Unit} (hwaiting : s.collector = .waiting)
      (hresult : s.drain.result = some result) :
      Step limited s .receive { s with collector := .decided (some result) }
  | expire (hwaiting : s.collector = .waiting) (hlimited : limited = true) :
      Step limited s .expire { s with collector := .decided none }
  | miss (hwaiting : s.collector = .waiting) (hconnected : s.connected = false)
      (hresult : s.drain.result = none) :
      Step limited s .miss { s with collector := .decided none }
  | take {heard : Option (Except Cause Unit)} (hdecided : s.collector = .decided heard) :
      Step limited s .take
        { s with
          collector := .returned heard (s.drain.collect heard).1
          drain := (s.drain.collect heard).2 }

theorem Parties.perform_iff {limited : Bool} {s s' : Parties} {act : Act} :
    s.perform limited act = some s' ↔ s.Step limited act s' := by
  constructor
  · intro h
    cases act with
    | read =>
      simp only [perform] at h
      split at h
      · next hheld hresult hahead =>
        obtain rfl := Option.some.inj h
        exact .read hheld hresult hahead
      · cases h
    | handle =>
      obtain ⟨a, hheld, rfl⟩ := Option.map_eq_some_iff.1 h
      exact .handle hheld
    | hangUp =>
      simp only [perform] at h
      split at h
      · next hready =>
        obtain rfl := Option.some.inj h
        simp only [Bool.and_eq_true, Option.isNone_iff_eq_none] at hready
        exact .hangUp hready.1.1 hready.1.2 hready.2
      · cases h
    | receive =>
      simp only [perform] at h
      split at h
      · next hwaiting hresult =>
        obtain rfl := Option.some.inj h
        exact .receive hwaiting hresult
      · cases h
    | expire =>
      simp only [perform] at h
      split at h
      · next hwaiting =>
        obtain rfl := Option.some.inj h
        exact .expire hwaiting rfl
      · cases h
    | miss =>
      simp only [perform] at h
      split at h
      · next hwaiting hconnected hresult =>
        obtain rfl := Option.some.inj h
        exact .miss hwaiting hconnected hresult
      · cases h
    | take =>
      simp only [perform] at h
      split at h
      · next hdecided =>
        obtain rfl := Option.some.inj h
        exact .take hdecided
      · cases h
  · rintro (⟨hheld, hresult, hahead⟩ | hheld | ⟨hheld, hresult, hconnected⟩ |
      ⟨hwaiting, hresult⟩ | ⟨hwaiting, hlimited⟩ | ⟨hwaiting, hconnected, hresult⟩ | hdecided)
    · simp [perform, hheld, hresult, hahead]
    · simp [perform, hheld]
    · simp [perform, hheld, hresult, hconnected]
    · simp [perform, hwaiting, hresult]
    · simp [perform, hwaiting, hlimited]
    · simp [perform, hwaiting, hconnected, hresult]
    · simp [perform, hdecided]

theorem Parties.run_concat {limited : Bool} {acts : List Act} {act : Act} {s s' : Parties} :
    s.run limited (acts ++ [act]) = some s' ↔
      ∃ between, s.run limited acts = some between ∧ between.Step limited act s' := by
  simp only [run, List.foldlM_append, List.foldlM_cons, List.foldlM_nil, bind_pure,
    Option.bind_eq_bind, Option.bind_eq_some_iff, perform_iff]

section Attempts

variable {attempts : List Attempt}

theorem chunks_append (h : ending attempts = none) (more : List Attempt) :
    chunks (attempts ++ more) = chunks attempts ++ chunks more ∧
      ending (attempts ++ more) = ending more := by
  induction attempts with
  | nil => exact ⟨rfl, rfl⟩
  | cons a attempts ih =>
    cases a with
    | part bytes => exact ⟨congrArg (bytes :: ·) (ih h).1, (ih h).2⟩
    | interrupted => exact ih h
    | ended => cases h
    | failed cause => cases h

theorem chunks_append_of_ended {result : Except Cause Unit} (h : ending attempts = some result)
    (more : List Attempt) :
    chunks (attempts ++ more) = chunks attempts ∧ ending (attempts ++ more) = some result := by
  induction attempts with
  | nil => cases h
  | cons a attempts ih =>
    cases a with
    | part bytes => exact ⟨congrArg (bytes :: ·) (ih h).1, (ih h).2⟩
    | interrupted => exact ih h
    | ended => exact ⟨rfl, h⟩
    | failed cause => exact ⟨rfl, h⟩

theorem chunks_take_prefix (attempts : List Attempt) (n : Nat) :
    chunks (attempts.take n) <+: chunks attempts := by
  rcases hend : ending (attempts.take n) with _ | result
  · have happend := (chunks_append hend (attempts.drop n)).1
    rw [List.take_append_drop] at happend
    exact ⟨_, happend.symm⟩
  · have happend := (chunks_append_of_ended hend (attempts.drop n)).1
    rw [List.take_append_drop] at happend
    exact ⟨[], by rw [happend, List.append_nil]⟩

theorem pump_of_open {d : Drain} (h : d.result = none) (a : Attempt) :
    (d.pump a).parts.reverse = d.parts.reverse ++ chunks [a] ∧
      (d.pump a).result = ending [a] := by
  cases a <;> simp [pump, h, chunks, ending]

theorem foldl_pump_of_ended {d : Drain} {result : Except Cause Unit} (h : d.result = some result)
    (attempts : List Attempt) : attempts.foldl pump d = d := by
  induction attempts with
  | nil => rfl
  | cons a attempts ih =>
    rw [List.foldl_cons, show d.pump a = d by simp [pump, h], ih]

theorem foldl_pump {d : Drain} (h : d.result = none) (attempts : List Attempt) :
    (attempts.foldl pump d).parts.reverse = d.parts.reverse ++ chunks attempts ∧
      (attempts.foldl pump d).result = ending attempts := by
  induction attempts generalizing d with
  | nil => exact ⟨(List.append_nil _).symm, h⟩
  | cons a attempts ih =>
    obtain ⟨hparts, hresult⟩ := pump_of_open h a
    rw [List.foldl_cons, ← List.singleton_append]
    rcases hend : ending [a] with _ | result
    · rw [(chunks_append hend attempts).1, (chunks_append hend attempts).2, ← List.append_assoc,
        ← hparts]
      exact ih (hresult.trans hend)
    · rw [(chunks_append_of_ended hend attempts).1, (chunks_append_of_ended hend attempts).2,
        foldl_pump_of_ended (hresult.trans hend), ← hparts, hresult, hend]
      exact ⟨rfl, rfl⟩

theorem after_eq (attempts : List Attempt) :
    after attempts =
      match ending attempts with
      | some (.error cause) => .error cause
      | _ => .ok (stream attempts) := by
  obtain ⟨hparts, hresult⟩ := foldl_pump (d := {}) rfl attempts
  have hbytes : (attempts.foldl pump {}).bytes = stream attempts := by
    rw [bytes, hparts]
    rfl
  simp only [after, hresult]
  rcases ending attempts with _ | cause | _
  · exact congrArg Except.ok hbytes
  · rfl
  · exact congrArg Except.ok hbytes

end Attempts

/-- What holds after `n` attempts have been handled. The pump has what it has read and not handled;
it sends when the attempts have ended and does not read on. What it has noted is there until it is
taken. The collector has heard only what was sent, and gives up only if it is limited. -/
structure Parties.Inv (attempts : List Attempt) (limited : Bool) (n : Nat) (s : Parties) : Prop where
  unread : attempts.drop n = s.held.toList ++ s.ahead
  sent : s.drain.result = ending (attempts.take n)
  atRest : s.drain.result.isSome → s.held = none
  hungUp : s.connected = false → s.drain.result.isSome
  noted : (∀ heard answer, s.collector ≠ .returned heard answer) →
    s.drain.parts.reverse = chunks (attempts.take n)
  heard : ∀ result, s.collector = .decided (some result) → s.drain.result = some result
  patient : s.collector = .decided none → limited = true

namespace Parties

variable {attempts : List Attempt} {pipe : Option (List Attempt)} {limited : Bool}

def script (pipe : Option (List Attempt)) : List Attempt := pipe.getD [.ended]

theorem inv_start (pipe : Option (List Attempt)) (limited : Bool) :
    (start pipe).Inv (script pipe) limited 0 := by
  rcases pipe with _ | attempts
  · exact ⟨rfl, rfl, nofun, nofun, fun _ => rfl, nofun, nofun⟩
  · exact ⟨rfl, rfl, nofun, nofun, fun _ => rfl, nofun, nofun⟩

theorem Inv.step {n : Nat} {s s' : Parties} {act : Act} (h : s.Inv attempts limited n)
    (hstep : s.Step limited act s') :
    s'.Inv attempts limited (n + if act = .handle then 1 else 0) := by
  cases hstep with
  | @read a ahead hheld hresult hahead =>
    refine { h with unread := ?_, atRest := ?_ }
    · rw [if_neg nofun, Nat.add_zero, h.unread, hheld, hahead]
      rfl
    · intro hsome
      rw [hresult] at hsome
      cases hsome
  | @handle a hheld =>
    -- The pump holds nothing once it has sent, so what it handles now comes before the end.
    have hopen : s.drain.result = none := by
      rw [← Option.not_isSome_iff_eq_none]
      intro hsome
      rw [h.atRest hsome] at hheld
      cases hheld
    have hdrop : attempts.drop n = a :: s.ahead := by rw [h.unread, hheld]; rfl
    have htake : attempts.take (n + 1) = attempts.take n ++ [a] := by
      rw [List.take_add, hdrop]
      rfl
    obtain ⟨hparts, hresult⟩ := pump_of_open hopen a
    obtain ⟨hchunks, hending⟩ := chunks_append (h.sent.symm.trans hopen) [a]
    rw [if_pos rfl]
    refine ⟨?_, ?_, fun _ => rfl, ?_, ?_, ?_, h.patient⟩
    · rw [← List.drop_drop, hdrop]
      rfl
    · rw [htake, hending]
      exact hresult
    · intro hconnected
      exact absurd (h.hungUp hconnected) (by rw [hopen]; nofun)
    · intro hcollector
      rw [htake, hchunks, ← h.noted hcollector]
      exact hparts
    · intro result hdecided
      exact absurd (hopen.symm.trans (h.heard result hdecided)) nofun
  | hangUp hheld hresult hconnected => exact { h with hungUp := fun _ => hresult }
  | @receive result hwaiting hresult =>
    refine { h with noted := fun _ => h.noted ?_, heard := ?_, patient := nofun }
    · rw [hwaiting]
      nofun
    · rintro result' ⟨⟩
      exact hresult
  | expire hwaiting hlimited =>
    refine { h with noted := fun _ => h.noted ?_, heard := nofun, patient := fun _ => hlimited }
    rw [hwaiting]
    nofun
  | miss hwaiting hconnected hresult =>
    exact absurd (h.hungUp hconnected) (by rw [hresult]; nofun)
  | @take heard hdecided =>
    have hresult : (s.drain.collect heard).2.result = s.drain.result := by
      rcases heard with _ | cause | _ <;> rfl
    refine ⟨h.unread, hresult.trans h.sent, ?_, ?_, ?_, nofun, nofun⟩
    · rw [hresult]
      exact h.atRest
    · rw [hresult]
      exact h.hungUp
    · intro hcollector
      exact absurd rfl (hcollector _ _)

theorem Inv.run {acts : List Act} {s : Parties} (h : (start pipe).run limited acts = some s) :
    s.Inv (script pipe) limited (acts.count .handle) := by
  induction acts using List.reverseRecOn generalizing s with
  | nil =>
    obtain rfl := Option.some.inj h
    exact inv_start pipe limited
  | append_singleton acts act ih =>
    obtain ⟨between, hbetween, hstep⟩ := run_concat.1 h
    have hinv := (ih hbetween).step hstep
    rw [List.count_append, List.count_singleton]
    simpa [beq_iff_eq] using hinv

theorem taken {acts : List Act} {s₀ s : Parties} {heard : Option (Except Cause Unit)}
    {answer : Except Cause Bytes} (hstart : s₀.collector = .waiting)
    (h : s₀.run limited acts = some s) (hreturned : s.collector = .returned heard answer) :
    ∃ before later s', acts = before ++ .take :: later ∧ s₀.run limited before = some s' ∧
      s'.collector = .decided heard ∧ answer = (s'.drain.collect heard).1 := by
  induction acts using List.reverseRecOn generalizing s with
  | nil =>
    obtain rfl := Option.some.inj h
    rw [hstart] at hreturned
    cases hreturned
  | append_singleton acts act ih =>
    obtain ⟨between, hbetween, hstep⟩ := run_concat.1 h
    by_cases hbefore : between.collector = .returned heard answer
    · obtain ⟨before, later, s', rfl, htaken⟩ := ih hbetween hbefore
      exact ⟨before, later ++ [act], s', by simp, htaken⟩
    · cases hstep with
      | read | handle | hangUp => exact absurd hreturned hbefore
      | receive | expire | miss => cases hreturned
      | @take heard' hdecided =>
        cases hreturned
        exact ⟨acts, [], between, rfl, hbetween, hdecided, rfl⟩

def left (s : Parties) : Nat :=
  2 * s.ahead.length + s.held.toList.length + s.connected.toNat +
    match s.collector with
    | .waiting => 2
    | .decided _ => 1
    | .returned .. => 0

theorem left_step {s s' : Parties} {act : Act} (h : s.Step limited act s') :
    s'.left + 1 = s.left := by
  cases h with
  | read hheld hresult hahead => simp [left, hheld, hahead]; omega
  | handle hheld => simp [left, hheld]; omega
  | hangUp hheld hresult hconnected => simp [left, hconnected]; omega
  | receive hwaiting => simp [left, hwaiting]
  | expire hwaiting => simp [left, hwaiting]
  | miss hwaiting => simp [left, hwaiting]
  | take hdecided => simp [left, hdecided]

theorem left_run {acts : List Act} {s₀ s : Parties} (h : s₀.run limited acts = some s) :
    s.left + acts.length = s₀.left := by
  induction acts using List.reverseRecOn generalizing s with
  | nil =>
    obtain rfl := Option.some.inj h
    rfl
  | append_singleton acts act ih =>
    obtain ⟨between, hbetween, hstep⟩ := run_concat.1 h
    rw [List.length_append, List.length_singleton, ← ih hbetween, ← left_step hstep]
    omega

/-- Until the collector has returned, there is something to do: the pump brings the end that is
awaited, one attempt after another. -/
theorem Inv.goes_on {n : Nat} {s : Parties} (h : s.Inv attempts limited n)
    (hends : limited = true ∨ (ending attempts).isSome)
    (hstuck : ∀ act, s.perform limited act = none) :
    ∃ heard answer, s.collector = .returned heard answer := by
  have hnot : ∀ act s', ¬ s.Step limited act s' := by
    intro act s' hstep
    exact absurd ((hstuck act).symm.trans (perform_iff.2 hstep)) nofun
  rcases hcollector : s.collector with _ | heard | ⟨heard, answer⟩
  · rcases hends with hlimited | hends
    · exact absurd (.expire hcollector hlimited) (hnot _ _)
    rcases hresult : s.drain.result with _ | result
    · rcases hheld : s.held with _ | a
      · have hunread := h.unread
        rw [hheld] at hunread
        have hahead : ending s.ahead = ending attempts := by
          rw [← List.nil_append s.ahead]
          refine (congrArg ending hunread.symm).trans ?_
          conv => rhs; rw [← List.take_append_drop n attempts]
          exact (chunks_append (h.sent.symm.trans hresult) _).2.symm
        rcases hcons : s.ahead with _ | ⟨a, ahead⟩
        · rw [← hahead, hcons] at hends
          cases hends
        · exact absurd (.read hheld hresult hcons) (hnot _ _)
      · exact absurd (.handle hheld) (hnot _ _)
    · exact absurd (.receive hcollector hresult) (hnot _ _)
  · exact absurd (.take hcollector) (hnot _ _)
  · exact ⟨heard, answer, rfl⟩

theorem Inv.answer_of_heard {n : Nat} {s : Parties} {result : Except Cause Unit}
    (h : s.Inv attempts limited n) (hdecided : s.collector = .decided (some result)) :
    ending attempts = some result ∧ (s.drain.collect (some result)).1 = after attempts := by
  have hend : ending (attempts.take n) = some result :=
    h.sent.symm.trans (h.heard result hdecided)
  obtain ⟨hchunks, hending⟩ := chunks_append_of_ended hend (attempts.drop n)
  rw [List.take_append_drop] at hchunks hending
  refine ⟨hending, ?_⟩
  have hbytes : s.drain.bytes = stream attempts := by
    rw [bytes, h.noted (by rw [hdecided]; nofun), stream, hchunks]
  rw [after_eq, hending]
  rcases result with cause | _
  · rfl
  · exact congrArg Except.ok hbytes

theorem Inv.answer_of_givenUp {n : Nat} {s : Parties} (h : s.Inv attempts limited n)
    (hdecided : s.collector = .decided none) :
    limited = true ∧ (s.drain.collect none).1 = .ok (stream (attempts.take n)) := by
  refine ⟨h.patient hdecided, congrArg Except.ok ?_⟩
  rw [bytes, h.noted (by rw [hdecided]; nofun), stream]

theorem start_waiting (pipe : Option (List Attempt)) : (start pipe).collector = .waiting := by
  cases pipe <;> rfl

theorem returned_cases {acts : List Act} {s : Parties} {heard : Option (Except Cause Unit)}
    {answer : Except Cause Bytes} (h : (start pipe).run limited acts = some s)
    (hreturned : s.collector = .returned heard answer) :
    (∃ result, heard = some result ∧ ending (script pipe) = some result ∧
      answer = after (script pipe)) ∨
    (heard = none ∧ limited = true ∧ ∃ before later, acts = before ++ .take :: later ∧
      answer = .ok (stream ((script pipe).take (before.count .handle)))) := by
  obtain ⟨before, later, s', hacts, hrun, hdecided, rfl⟩ :=
    taken (start_waiting pipe) h hreturned
  rcases heard with _ | result
  · obtain ⟨hlimited, hanswer⟩ := (Inv.run hrun).answer_of_givenUp hdecided
    exact .inr ⟨rfl, hlimited, before, later, hacts, hanswer⟩
  · obtain ⟨hending, hanswer⟩ := (Inv.run hrun).answer_of_heard hdecided
    exact .inl ⟨result, rfl, hending, hanswer⟩

theorem left_start (pipe : Option (List Attempt)) :
    (start pipe).left ≤ 2 * (script pipe).length + 3 := by
  rcases pipe with _ | attempts
  · decide
  · exact Nat.le_refl _

/-- In whatever order the two sides act, the collector ends up with what the pipe brought. Having
heard of the end it returns the whole stream, having heard of a failure that failure. Having given
up, which it never does without a limit, it returns the first parts of the stream, exactly those
noted before it took them. A missing pipe gives nothing. No order of acts goes on for ever, and none
stops before the collector has returned, if it is limited or the pipe ends. -/
theorem collected_in_any_order (pipe : Option (List Attempt)) (limited : Bool) (acts : List Act)
    (s : Parties) (h : (start pipe).run limited acts = some s) :
    (limited = false →
      s.collector ≠ .decided none ∧ ∀ answer, s.collector ≠ .returned none answer) ∧
    (∀ heard answer, s.collector = .returned heard answer →
      (heard = some (.ok ()) → answer = .ok (stream (script pipe))) ∧
      (∀ cause, heard = some (.error cause) → answer = .error cause) ∧
      (heard ≠ none → heard = ending (script pipe) ∧ answer = after (script pipe)) ∧
      (heard = none → ∃ before later, acts = before ++ .take :: later ∧
        chunks ((script pipe).take (before.count .handle)) <+: chunks (script pipe) ∧
        answer = .ok (chunks ((script pipe).take (before.count .handle))).flatten) ∧
      (pipe = none → answer = .ok [])) ∧
    acts.length ≤ 2 * (script pipe).length + 3 ∧
    (limited = true ∨ (ending (script pipe)).isSome → (∀ act, s.perform limited act = none) →
      ∃ heard answer, s.collector = .returned heard answer) := by
  refine ⟨fun hlimited => ⟨?_, ?_⟩, ?_, ?_, (Inv.run h).goes_on⟩
  · intro hdecided
    exact absurd ((Inv.run h).patient hdecided) (by simp [hlimited])
  · intro answer hreturned
    rcases returned_cases h hreturned with ⟨result, hheard, -⟩ | ⟨-, hgaveUp, -⟩
    · cases hheard
    · simp [hlimited] at hgaveUp
  · intro heard answer hreturned
    rcases returned_cases h hreturned with
      ⟨result, rfl, hending, hanswer⟩ | ⟨rfl, -, before, later, hacts, hanswer⟩
    · refine ⟨?_, ?_, fun _ => ⟨hending.symm, hanswer⟩, nofun, ?_⟩
      · rintro ⟨⟩
        rw [hanswer, after_eq, hending]
      · rintro cause ⟨⟩
        rw [hanswer, after_eq, hending]
      · rintro rfl
        exact hanswer
    · have hnoted := chunks_take_prefix (script pipe) (before.count .handle)
      refine ⟨nofun, nofun, nofun, fun _ => ⟨before, later, hacts, hnoted, hanswer⟩, ?_⟩
      rintro rfl
      rw [hanswer, stream, List.prefix_nil.1 hnoted]
      rfl
  · have hleft := left_run h
    have hstart := left_start pipe
    omega

/-- A pipe with two parts, and an order of acts in which time runs out when the end has been read but
not yet told. -/
def twoParts : List Attempt := [.part [1, 2], .interrupted, .part [3], .ended]

def lateNews : List Act :=
  [.read, .handle, .read, .handle, .read, .handle, .read, .expire, .take, .handle]

def unheard : Parties :=
  { ahead := [], drain := { result := some (.ok ()) }, collector := .returned none (.ok [1, 2, 3]) }

theorem collected_before_news :
    (start (some twoParts)).run true lateNews = some unheard ∧
    ∃ before later, lateNews = before ++ .take :: later ∧
      chunks (twoParts.take (before.count .handle)) <+: chunks twoParts ∧
      (.ok [1, 2, 3] : Except Cause Bytes) =
        .ok (chunks (twoParts.take (before.count .handle))).flatten := by
  have hrun : (start (some twoParts)).run true lateNews = some unheard := rfl
  obtain ⟨-, hreturned, -⟩ := collected_in_any_order (some twoParts) true lateNews unheard hrun
  obtain ⟨-, -, -, hgaveUp, -⟩ := hreturned none (.ok [1, 2, 3]) rfl
  exact ⟨hrun, hgaveUp rfl⟩

end Parties

end Drain

end Proctor
