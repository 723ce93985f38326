import Proctor.Proofs.Workspace.Steps

/-!
# The stages of a build

A build is carried out stage by stage, up to the first that does not go well. Beside it stand the
replies that the system gives if every stage is begun, each in the world that the one before it
left. The first of them that is not a success decides: no later stage is begun, and the problem
tells what the reply was, whose program it was about and what that was to work on.
-/

set_option autoImplicit false

namespace Proctor.Pipeline

open Proctor.Workspace

variable {ω : Type}

structure Stage where
  role : Role
  invocation : Invocation
  subject : Path
  deriving DecidableEq, Repr

/-- The stages of a build. The assembler reads what the compiler wrote, and the linker what the
assembler did. -/
def stages (p : Pipeline) (source runtime : Path) (a : Artifacts) : List Stage :=
  [{ role := .compiler
     invocation :=
       { program := p.toolchain.compiler.headD ""
         arguments := p.toolchain.compiler.tail.map Bytes.ofString ++
           [source.bytes, Bytes.ofString "-o", a.ir.bytes] }
     subject := source },
   { role := .assembler
     invocation :=
       { program := p.toolchain.assembler
         arguments := [a.ir.bytes, Bytes.ofString "-o", a.object.bytes] }
     subject := a.ir },
   { role := .linker
     invocation :=
       { program := p.toolchain.linker
         arguments := [runtime.bytes, a.object.bytes, Bytes.ofString "-o", a.executable.bytes] }
     subject := a.object }]

abbrev Reply := Except Cause Outcome

def Reply.succeeds : Reply → Bool
  | .ok outcome => !outcome.timedOut && outcome.status.success
  | .error _ => false

theorem Reply.succeeds_iff (reply : Reply) :
    reply.succeeds = true ↔
      ∃ outcome, reply = .ok outcome ∧ outcome.timedOut = false ∧ outcome.status.success = true := by
  rcases reply with cause | outcome <;> simp [succeeds]

def replies (host : Host ω) (limit : Option Duration) : List Stage → ω → List Reply
  | [], _ => []
  | s :: rest, w =>
    (host.launch s.invocation limit w).1 ::
      replies host limit rest (host.launch s.invocation limit w).2

/-- The problem that a reply to a stage amounts to. Being late counts before how the program ended,
and there is a limit to be late for. -/
inductive Blames (limit : Option Duration) (s : Stage) : Reply → Problem → Prop
  | missing :
      Blames limit s (.error .notFound)
        (.toolNotFound s.role s.invocation.program s.role.hint .notFound)
  | unstartable {cause : Cause} (h : cause ≠ .notFound) :
      Blames limit s (.error cause) (.notStarted s.invocation.program cause)
  | late {outcome : Outcome} {d : Duration} (hlate : outcome.timedOut = true)
      (hlimit : limit = some d) :
      Blames limit s (.ok outcome)
        (.toolTimedOut s.role s.invocation.program s.subject.display d)
  | failed {outcome : Outcome} (hended : outcome.timedOut = false)
      (hbad : outcome.status.success = false) :
      Blames limit s (.ok outcome)
        (.toolFailed s.role s.invocation.program s.subject.display outcome.status.describe
          outcome.stderr.lossy)

def Stage.request (limit : Option Duration) (s : Stage) : Request := .launch s.invocation limit

/-- The stages that are begun when the replies are as given: those that go well and one more. -/
def begunStages (stages : List Stage) (replies : List Reply) : List Stage :=
  stages.take (replies.findIdx (fun reply => !reply.succeeds) + 1)

namespace Stage

variable (p : Pipeline) (host : Host ω) (s : Stage)

def act : Action ω Unit := p.start host s.role s.invocation s.subject

def fault? : Reply → Option Problem
  | .error cause => some (startProblem s.role s.invocation.program cause)
  | .ok outcome => p.outcomeProblem? s.role s.subject outcome

theorem fault?_eq_none (reply : Reply) : s.fault? p reply = none ↔ reply.succeeds = true := by
  rcases reply with cause | outcome
  · simp [fault?, Reply.succeeds]
  · exact p.outcomeProblem?_eq_none s.role s.subject outcome

theorem succeeds_of_fault {reply : Reply} {problem : Problem}
    (h : s.fault? p reply = some problem) : reply.succeeds = false := by
  rw [← Bool.not_eq_true, ← s.fault?_eq_none p, h]
  simp

section Blame

variable {p s} {reply : Reply} {problem : Problem}

theorem fault?_of_blames (hprogram : s.invocation.program = p.toolchain.program s.role)
    (h : Blames p.limit s reply problem) : s.fault? p reply = some problem := by
  cases h with
  | missing => simp [fault?, startProblem]
  | unstartable hcause => simp [fault?, startProblem, hcause]
  | late hlate hlimit => simp [fault?, outcomeProblem?, hlate, hlimit, hprogram]
  | failed hended hbad => simp [fault?, outcomeProblem?, hended, hbad, hprogram]

theorem exists_blames
    (hlate : ∀ outcome, p.limit = none → reply = .ok outcome → outcome.timedOut = false)
    (h : reply.succeeds = false) : ∃ problem, Blames p.limit s reply problem := by
  rcases reply with cause | outcome
  · by_cases hcause : cause = .notFound
    · exact hcause ▸ ⟨_, .missing⟩
    · exact ⟨_, .unstartable hcause⟩
  · rcases htime : outcome.timedOut with _ | _
    · exact ⟨_, .failed htime (by simpa [Reply.succeeds, htime] using h)⟩
    · rcases hlimit : p.limit with _ | d
      · rw [hlate outcome hlimit rfl] at htime
        cases htime
      · exact ⟨_, .late htime rfl⟩

theorem fault?_eq_some (hprogram : s.invocation.program = p.toolchain.program s.role)
    (hlate : ∀ outcome, p.limit = none → reply = .ok outcome → outcome.timedOut = false) :
    s.fault? p reply = some problem ↔ Blames p.limit s reply problem := by
  refine ⟨fun h => ?_, fault?_of_blames hprogram⟩
  obtain ⟨found, hfound⟩ := exists_blames hlate (s.succeeds_of_fault p h)
  rw [fault?_of_blames hprogram hfound] at h
  exact Option.some.inj h ▸ hfound

end Blame

theorem act_eq (w : ω) :
    s.act p host w =
      ((match s.fault? p (host.launch s.invocation p.limit w).1 with
        | none => .ok ()
        | some problem => .error problem),
        (host.launch s.invocation p.limit w).2) := by
  rcases hlaunch : host.launch s.invocation p.limit w with ⟨cause | outcome, w₁⟩
  · simp [act, start, Operation.orElse, Action.andThen, hlaunch, fault?]
  · rcases hproblem : p.outcomeProblem? s.role s.subject outcome with _ | problem <;>
      simp [act, start, Operation.orElse, Action.andThen, hlaunch, fault?, hproblem, Action.pure,
        Action.fail]

theorem notes_act :
    Notes (fun _ => [s.request p.limit]) (s.act p host) (s.act p (watched host)) :=
  notes_start host p s.role s.invocation s.subject

end Stage

section Course

variable (p : Pipeline) (host : Host ω)

def carryOut : List Stage → Action ω Unit
  | [] => .pure ()
  | s :: rest => (s.act p host).andThen fun _ => carryOut rest

/-- One stage of the course: either it goes well and the rest decides, or it decides itself. -/
theorem carryOut_cons (s : Stage) (rest : List Stage) (w : ω) :
    let launched := host.launch s.invocation p.limit w
    (s.fault? p launched.1 = none ∧ Reply.succeeds launched.1 = true ∧
      carryOut p host (s :: rest) w = carryOut p host rest launched.2) ∨
    ∃ problem, s.fault? p launched.1 = some problem ∧ Reply.succeeds launched.1 = false ∧
      carryOut p host (s :: rest) w = (.error problem, launched.2) := by
  intro launched
  have hact := s.act_eq p host w
  rcases hfault : s.fault? p launched.1 with _ | problem
  · rw [hfault] at hact
    refine .inl ⟨rfl, (s.fault?_eq_none p _).mp hfault, ?_⟩
    simp only [carryOut, Action.andThen, hact]
    rfl
  · rw [hfault] at hact
    refine .inr ⟨problem, rfl, s.succeeds_of_fault p hfault, ?_⟩
    simp only [carryOut, Action.andThen, hact]
    rfl

theorem carryOut_fst_ok (stages : List Stage) (w : ω) :
    (carryOut p host stages w).1 = .ok () ↔
      ∀ reply ∈ replies host p.limit stages w, reply.succeeds = true := by
  induction stages generalizing w with
  | nil => simp [carryOut, Action.pure, replies]
  | cons s rest ih =>
    rw [replies, List.forall_mem_cons]
    rcases carryOut_cons p host s rest w with ⟨-, hgood, hrest⟩ | ⟨problem, -, hbad, hends⟩
    · rw [hrest, ih, hgood]
      simp
    · rw [hends, hbad]
      simp

theorem carryOut_fst_error (stages : List Stage) (w : ω) (problem : Problem) :
    let all := replies host p.limit stages w
    let k := all.findIdx fun reply => !reply.succeeds
    (carryOut p host stages w).1 = .error problem ↔
      ∃ s reply, stages[k]? = some s ∧ all[k]? = some reply ∧ s.fault? p reply = some problem := by
  induction stages generalizing w with
  | nil => simp [carryOut, Action.pure]
  | cons s rest ih =>
    simp only [replies, List.findIdx_cons]
    rcases carryOut_cons p host s rest w with ⟨-, hgood, hrest⟩ | ⟨found, hfault, hbad, hends⟩
    · rw [hrest, hgood]
      exact ih _
    · rw [hends, hbad]
      simp [hfault, eq_comm]

theorem notes_carryOut (stages : List Stage) :
    Notes
      (fun w => (begunStages stages (replies host p.limit stages w)).map (Stage.request p.limit))
      (carryOut p host stages) (carryOut p (watched host) stages) := by
  induction stages with
  | nil => exact Notes.pure ()
  | cons s rest ih =>
    intro w log
    have hnoted := s.notes_act p host w log
    have hact := s.act_eq p host w
    simp only [begunStages, replies, List.findIdx_cons]
    rcases carryOut_cons p host s rest w with ⟨hfault, hgood, hrest⟩ | ⟨found, hfault, hbad, hends⟩
    · rw [hfault] at hact
      rw [hact] at hnoted
      rw [hrest, carryOut, Action.andThen, hnoted, hgood]
      refine (ih _ _).trans ?_
      simp [begunStages]
    · rw [hfault] at hact
      rw [hact] at hnoted
      rw [hends, carryOut, Action.andThen, hnoted, hbad]
      simp

end Course

theorem mem_replies {host : Host ω} {limit : Option Duration} {stages : List Stage} {w : ω}
    {reply : Reply} (h : reply ∈ replies host limit stages w) :
    ∃ invocation w', reply = (host.launch invocation limit w').1 := by
  induction stages generalizing w with
  | nil => cases h
  | cons s rest ih =>
    rcases List.mem_cons.mp h with rfl | hrest
    · exact ⟨s.invocation, w, rfl⟩
    · exact ih hrest

theorem length_replies (host : Host ω) (limit : Option Duration) (stages : List Stage) (w : ω) :
    (replies host limit stages w).length = stages.length := by
  induction stages generalizing w with
  | nil => rfl
  | cons s rest ih => rw [replies, List.length_cons, List.length_cons, ih]

theorem begunStages_of_success {stages : List Stage} {all : List Reply}
    (hlength : all.length = stages.length) (h : ∀ reply ∈ all, reply.succeeds = true) :
    begunStages stages all = stages := by
  have hnone : all.findIdx (fun reply => !reply.succeeds) = all.length :=
    List.findIdx_eq_length_of_false fun reply hreply => by simp [h reply hreply]
  rw [begunStages, hnone, hlength]
  exact List.take_of_length_le (Nat.le_succ _)

section Build

variable (p : Pipeline) (host : Host ω) (id : String) (source runtime scratch : Path)

theorem stages_program {a : Artifacts} {s : Stage} (h : s ∈ p.stages source runtime a) :
    s.invocation.program = p.toolchain.program s.role := by
  simp only [stages, List.mem_cons, List.not_mem_nil, or_false] at h
  rcases h with rfl | rfl | rfl <;> rfl

theorem build_eq_carryOut :
    p.build host id source runtime scratch =
      (carryOut p host (p.stages source runtime (.ofTest scratch id))).andThen fun _ =>
        .pure (.ofTest scratch id) := by
  simp only [stages, carryOut, Action.andThen_assoc, Action.pure_andThen]
  rfl

theorem build_fst_ok (a : Artifacts) (w : ω) :
    (p.build host id source runtime scratch w).1 = .ok a ↔
      a = .ofTest scratch id ∧
        ∀ reply ∈ replies host p.limit (p.stages source runtime (.ofTest scratch id)) w,
          reply.succeeds = true := by
  rw [build_eq_carryOut, Action.andThen_fst_ok, ← carryOut_fst_ok]
  constructor
  · rintro ⟨_, hcourse, ha⟩
    exact ⟨(Except.ok.inj ha).symm, hcourse⟩
  · rintro ⟨rfl, hcourse⟩
    exact ⟨(), hcourse, rfl⟩

theorem build_fst_error (problem : Problem) (w : ω) :
    (p.build host id source runtime scratch w).1 = .error problem ↔
      (carryOut p host (p.stages source runtime (.ofTest scratch id)) w).1 = .error problem := by
  rw [build_eq_carryOut]
  rcases h : carryOut p host (p.stages source runtime (.ofTest scratch id)) w with ⟨found | _, w₁⟩ <;>
    simp [Action.andThen, h, Action.pure]

theorem notes_build :
    Notes
      (fun w =>
        (begunStages (p.stages source runtime (.ofTest scratch id))
          (replies host p.limit (p.stages source runtime (.ofTest scratch id)) w)).map
            (Stage.request p.limit))
      (p.build host id source runtime scratch) (p.build (watched host) id source runtime scratch) := by
  rw [build_eq_carryOut, build_eq_carryOut]
  exact (notes_carryOut p host _).andThen_quiet fun _ => Notes.pure _

theorem requests_of_built {a : Artifacts} {w w' : ω} {log : List Request}
    (h : p.build (watched host) id source runtime scratch (w, []) = (.ok a, w', log)) :
    a = .ofTest scratch id ∧ log = (p.stages source runtime a).map (Stage.request p.limit) := by
  have hnotes := notes_build p host id source runtime scratch w []
  rw [h] at hnotes
  obtain ⟨hok, -, hlog⟩ : _ ∧ _ ∧ _ := by simpa using hnotes
  obtain ⟨rfl, hgood⟩ := (build_fst_ok p host id source runtime scratch a w).mp hok.symm
  exact ⟨rfl, by rw [hlog, begunStages_of_success (length_replies ..) hgood]⟩

end Build

/-- A build starts the compiler, the assembler and the linker in this order, each on its own input
and output, and nothing after the first that is no success. It gives the artifacts of the test just
when all three succeed. Otherwise the problem is that of the first stage that does not, with its
role, its program, its subject and, if it was late, the limit that was set. -/
theorem build_blames_first_failure (p : Pipeline) (host : Host ω)
    (hlate : ∀ invocation w outcome,
      (host.launch invocation none w).1 = .ok outcome → outcome.timedOut = false)
    (id : String) (source runtime scratch : Path) (w : ω) :
    let stages := p.stages source runtime (.ofTest scratch id)
    let all := replies host p.limit stages w
    let k := all.findIdx fun reply => !reply.succeeds
    let ending := p.build host id source runtime scratch w
    p.build (watched host) id source runtime scratch (w, []) =
      (ending.1, ending.2, (stages.take (k + 1)).map fun s => .launch s.invocation p.limit) ∧
    (∀ a, ending.1 = .ok a ↔ a = .ofTest scratch id ∧ ∀ reply ∈ all,
      ∃ outcome, reply = .ok outcome ∧ outcome.timedOut = false ∧
        outcome.status.success = true) ∧
    ∀ problem, ending.1 = .error problem ↔
      ∃ s reply, stages[k]? = some s ∧ all[k]? = some reply ∧ Blames p.limit s reply problem := by
  intro stages all k ending
  refine ⟨?begun, fun a => ?well, fun problem => ?badly⟩
  case begun => exact notes_build p host id source runtime scratch w []
  case well =>
    rw [build_fst_ok]
    exact and_congr_right fun _ => forall₂_congr fun reply _ => reply.succeeds_iff
  case badly =>
    rw [build_fst_error]
    refine (carryOut_fst_error p host stages w problem).trans ?_
    refine exists₂_congr fun s reply => and_congr_right fun hs => and_congr_right fun hreply => ?_
    refine Stage.fault?_eq_some (stages_program p source runtime (List.mem_of_getElem? hs)) ?_
    rintro outcome hnone rfl
    obtain ⟨invocation, w', hlaunch⟩ := mem_replies (List.mem_of_getElem? hreply)
    exact hlate invocation w' outcome (hnone ▸ hlaunch.symm)

/-- A system on which every program ends well, but linkers are too slow for any limit. -/
def slowLinker : Host Unit where
  isDirectory _ _ := true
  isFile _ _ := true
  isPresent _ _ := true
  content _ _ := .ok []
  listing _ _ := .ok []
  removeTree _ w := (.ok (), w)
  createDirectories _ w := (.ok (), w)
  launch i limit w :=
    (.ok { status := .exited 0, timedOut := decide (i.program = "gcc") && limit.isSome }, w)
  now _ := 0

theorem late_linker_blamed :
    (build { toolchain := {}, limit := some (.ofSeconds 2) } slowLinker "t" (.ofString "test/t")
      (.ofString "rt.s") (.ofString "out/") ()).1 =
      .error (.toolTimedOut .linker "gcc" "out/t.s" (.ofSeconds 2)) := by
  have hlate : ∀ invocation w outcome,
      (slowLinker.launch invocation none w).1 = .ok outcome → outcome.timedOut = false := by
    rintro invocation w outcome h
    simp [← Except.ok.inj h]
  obtain ⟨-, -, hblame⟩ := build_blames_first_failure
    { toolchain := {}, limit := some (.ofSeconds 2) } slowLinker hlate "t" (.ofString "test/t")
    (.ofString "rt.s") (.ofString "out/") ()
  exact (hblame _).mpr ⟨_, _, rfl, rfl, .late rfl rfl⟩

end Proctor.Pipeline
