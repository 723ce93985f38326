import Proctor.Proofs.Build.Isolation

/-!
# The steps of getting ready

Steps are taken one after another, up to the first that fails. Beside what comes of them stands the
trail of those begun and what these request of the system, which is watched through a copy of it
that notes every request; being watched changes no answer. A step goes well just when it passes, and
leaves what its requests make of the world.
-/

set_option autoImplicit false

namespace Proctor

namespace Pipeline

variable {ω : Type} {p : Pipeline} {host : Host ω} {role : Role} {invocation : Invocation}
  {subject : Path} {w : ω}

theorem start_fst_ok :
    (p.start host role invocation subject w).1 = .ok () ↔
      ∃ outcome, (host.launch invocation p.limit w).1 = .ok outcome ∧ outcome.success = true := by
  constructor
  · intro h
    obtain ⟨outcome, hlaunch, hgood⟩ := start_eq_ok.mp (Prod.ext h rfl)
    exact ⟨outcome, by rw [hlaunch], hgood⟩
  · rintro ⟨outcome, hlaunch, hgood⟩
    rw [start_eq_ok.mpr ⟨outcome, Prod.ext hlaunch rfl, hgood⟩]

theorem start_snd :
    (p.start host role invocation subject w).2 = (host.launch invocation p.limit w).2 := by
  rw [start, Action.andThen_snd, Operation.orElse_snd]
  intro outcome w₁
  rcases p.outcomeProblem? role subject outcome with _ | problem <;> rfl

end Pipeline

namespace Workspace

variable {ω : Type}

/-- What the system may be asked to do. Questions to it are not requests: they change nothing. -/
inductive Request where
  | launch (invocation : Invocation) (limit : Option Duration)
  | removeTree (path : Path)
  | createDirectories (path : Path)
  deriving DecidableEq, Repr

def Request.perform (host : Host ω) (w : ω) : Request → ω
  | .launch invocation limit => (host.launch invocation limit w).2
  | .removeTree path => (host.removeTree path w).2
  | .createDirectories path => (host.createDirectories path w).2

def noting {α : Type} (request : Request) (x : Operation ω α) :
    Operation (ω × List Request) α := fun w =>
  ((x w.1).1, (x w.1).2, w.2 ++ [request])

def watched (host : Host ω) : Host (ω × List Request) where
  isDirectory w := host.isDirectory w.1
  isFile w := host.isFile w.1
  isPresent w := host.isPresent w.1
  content w := host.content w.1
  listing w := host.listing w.1
  removeTree path := noting (.removeTree path) (host.removeTree path)
  createDirectories path := noting (.createDirectories path) (host.createDirectories path)
  launch invocation limit := noting (.launch invocation limit) (host.launch invocation limit)
  now w := host.now w.1

def trial (host : Host ω) (p : Pipeline) (role : Role) (flag : String) : Operation ω Outcome :=
  host.launch (p.invocation role [Bytes.ofString flag]) p.limit

def assembling (p : Pipeline) (settings : Settings) : Invocation where
  program := p.toolchain.assembler
  arguments := [settings.runtimeSource.bytes, Bytes.ofString "-o",
    (runtimeObject settings.scratchDir).bytes]

inductive Step where
  | precondition
  | probe (role : Role) (flag : String)
  | scratchPath
  | removal
  | creation
  | runtimeDirectory
  | runtime
  deriving DecidableEq, Repr

namespace Step

def checks : List Step :=
  [.precondition, .probe .assembler "-help", .probe .linker "--help", .scratchPath]

def changes : List Step := [.removal, .creation, .runtimeDirectory, .runtime]

section Course

variable (host : Host ω) (p : Pipeline) (settings : Settings)

def act : Step → Action ω Unit
  | .precondition => checkPrecondition host settings.preconditionDir
  | .probe role flag => Workspace.probe host p role flag
  | .scratchPath => checkScratch settings.scratchDir
  | .removal => removeOld host settings.scratchDir
  | .creation => createNew host settings.scratchDir
  | .runtimeDirectory => createNew host (Proctor.runtimeDirectory settings.scratchDir)
  | .runtime => p.assemble host settings.runtimeSource (runtimeObject settings.scratchDir)

/-- What a step requests of the system, whatever comes of it. Only what is there is removed. -/
def requests (w : ω) : Step → List Request
  | .precondition => []
  | .probe role flag => [.launch (p.invocation role [Bytes.ofString flag]) p.limit]
  | .scratchPath => []
  | .removal =>
    if host.isPresent w settings.scratchDir then [.removeTree settings.scratchDir] else []
  | .creation => [.createDirectories settings.scratchDir]
  | .runtimeDirectory => [.createDirectories (Proctor.runtimeDirectory settings.scratchDir)]
  | .runtime => [.launch (assembling p settings) p.limit]

/-- What it takes for a step to go well. How a program that is only tried ends does not matter. -/
def Passes (w : ω) : Step → Prop
  | .precondition => host.isDirectory w settings.preconditionDir = true
  | .probe role flag => ∃ outcome, (trial host p role flag w).1 = .ok outcome
  | .scratchPath => isSafeScratch settings.scratchDir = true
  | .removal =>
    host.isPresent w settings.scratchDir = true →
      (host.removeTree settings.scratchDir w).1 = .ok ()
  | .creation => (host.createDirectories settings.scratchDir w).1 = .ok ()
  | .runtimeDirectory =>
    (host.createDirectories (Proctor.runtimeDirectory settings.scratchDir) w).1 = .ok ()
  | .runtime =>
    ∃ outcome, (host.launch (assembling p settings) p.limit w).1 = .ok outcome ∧
      outcome.success = true

end Course

end Step

section

variable (host : Host ω) (p : Pipeline) (settings : Settings)

def inOrder : List Step → Action ω Unit
  | [] => .pure ()
  | s :: rest => (s.act host p settings).andThen fun _ => inOrder rest

def begun : List Step → ω → List (Step × ω)
  | [], _ => []
  | s :: rest, w =>
    (s, w) :: match s.act host p settings w with
      | (.ok _, w') => begun rest w'
      | (.error _, _) => []

def requested (trail : List (Step × ω)) : List Request :=
  trail.flatMap fun b => b.1.requests host p settings b.2

theorem requested_cons (s : Step) (w : ω) (trail : List (Step × ω)) :
    requested host p settings ((s, w) :: trail) =
      s.requests host p settings w ++ requested host p settings trail :=
  List.flatMap_cons

section Cons

variable {host p settings} {s : Step} (rest : List Step) {w w₁ : ω}

theorem inOrder_cons_ok {a : Unit} (h : s.act host p settings w = (.ok a, w₁)) :
    inOrder host p settings (s :: rest) w = inOrder host p settings rest w₁ := by
  simp only [inOrder, Action.andThen, h]

theorem inOrder_cons_error {problem : Problem}
    (h : s.act host p settings w = (.error problem, w₁)) :
    inOrder host p settings (s :: rest) w = (.error problem, w₁) := by
  simp only [inOrder, Action.andThen, h]

theorem begun_cons_ok {a : Unit} (h : s.act host p settings w = (.ok a, w₁)) :
    begun host p settings (s :: rest) w = (s, w) :: begun host p settings rest w₁ := by
  simp only [begun, h]

theorem begun_cons_error {problem : Problem}
    (h : s.act host p settings w = (.error problem, w₁)) :
    begun host p settings (s :: rest) w = [(s, w)] := by
  simp only [begun, h]

end Cons

end

/-- An action on the watched system answers and changes the world as on the system itself, and notes
what it requests. -/
def Notes {α : Type} (requests : ω → List Request) (x : Action ω α)
    (y : Action (ω × List Request) α) : Prop :=
  ∀ w log, y (w, log) = ((x w).1, (x w).2, log ++ requests w)

namespace Notes

variable {α β : Type}

theorem pure (a : α) : Notes (fun _ : ω => []) (.pure a) (.pure a) := by
  intro w log
  simp [Action.pure]

theorem fail (problem : Problem) :
    Notes (fun _ : ω => []) (.fail problem : Action ω α) (.fail problem) := by
  intro w log
  simp [Action.fail]

theorem orElse (request : Request) (x : Operation ω α) (problem : Cause → Problem) :
    Notes (fun _ => [request]) (x.orElse problem) ((noting request x).orElse problem) := by
  intro w log
  rcases hx : x w with ⟨cause | a, w₁⟩ <;> simp [Operation.orElse, noting, hx]

theorem andThen_quiet {requests : ω → List Request} {x : Action ω α}
    {y : Action (ω × List Request) α} {f : α → Action ω β} {g : α → Action (ω × List Request) β}
    (hx : Notes requests x y) (hf : ∀ a, Notes (fun _ => []) (f a) (g a)) :
    Notes requests (x.andThen f) (y.andThen g) := by
  intro w log
  have hy := hx w log
  rcases hw : x w with ⟨problem | a, w₁⟩
  · rw [hw] at hy
    simp [Action.andThen, hy, hw]
  · rw [hw] at hy
    simp [Action.andThen, hy, hw, hf a w₁]

end Notes

section

variable (host : Host ω) (p : Pipeline) (settings : Settings)

theorem notes_start (role : Role) (invocation : Invocation) (subject : Path) :
    Notes (fun _ => [.launch invocation p.limit]) (p.start host role invocation subject)
      (p.start (watched host) role invocation subject) := by
  refine (Notes.orElse _ _ _).andThen_quiet fun outcome => ?_
  rcases p.outcomeProblem? role subject outcome with _ | problem
  · exact Notes.pure ()
  · exact Notes.fail problem

theorem notes_act (s : Step) :
    Notes (fun w => s.requests host p settings w) (s.act host p settings)
      (s.act (watched host) p settings) := by
  cases s with
  | precondition =>
    intro w log
    by_cases hthere : host.isDirectory w settings.preconditionDir = true <;>
      simp [Step.act, checkPrecondition, watched, Step.requests, hthere]
  | probe role flag => exact (Notes.orElse _ _ _).andThen_quiet fun _ => Notes.pure ()
  | scratchPath =>
    simp only [Step.act, checkScratch, Step.requests]
    split
    · exact Notes.pure ()
    · exact Notes.fail _
  | removal =>
    intro w log
    simp only [Step.act, removeOld, Step.requests]
    by_cases hpresent : host.isPresent w settings.scratchDir = true
    · simpa [watched, hpresent] using Notes.orElse (.removeTree settings.scratchDir)
        (host.removeTree settings.scratchDir) _ w log
    · simp [watched, hpresent]
  | creation => exact Notes.orElse _ _ _
  | runtimeDirectory => exact Notes.orElse _ _ _
  | runtime => exact notes_start host p .assembler _ _

theorem notes_inOrder (steps : List Step) :
    Notes (fun w => requested host p settings (begun host p settings steps w))
      (inOrder host p settings steps) (inOrder (watched host) p settings steps) := by
  induction steps with
  | nil => exact Notes.pure ()
  | cons s rest ih =>
    intro w log
    have hs := notes_act host p settings s w log
    rcases hw : s.act host p settings w with ⟨problem | a, w₁⟩
    · rw [hw] at hs
      rw [inOrder_cons_error rest hs, inOrder_cons_error rest hw]
      simp [begun_cons_error rest hw, requested]
    · rw [hw] at hs
      rw [inOrder_cons_ok rest hs, inOrder_cons_ok rest hw]
      refine (ih w₁ _).trans ?_
      simp [begun_cons_ok rest hw, requested_cons]

end

section

variable {host : Host ω} {p : Pipeline} {settings : Settings} {steps later : List Step}
  {problem : Problem} {w w' : ω}

theorem inOrder_append (steps later : List Step) :
    inOrder host p settings (steps ++ later) =
      (inOrder host p settings steps).andThen fun _ => inOrder host p settings later := by
  induction steps with
  | nil => rfl
  | cons s rest ih => simp only [List.cons_append, inOrder, ih, Action.andThen_assoc]

theorem inOrder_append_error (h : inOrder host p settings steps w = (.error problem, w')) :
    inOrder host p settings (steps ++ later) w = (.error problem, w') := by
  simp [inOrder_append, Action.andThen, h]

theorem begun_append_error (h : inOrder host p settings steps w = (.error problem, w')) :
    begun host p settings (steps ++ later) w = begun host p settings steps w := by
  induction steps generalizing w with
  | nil => simp [inOrder, Action.pure] at h
  | cons s rest ih =>
    rcases hs : s.act host p settings w with ⟨problem' | a, w₁⟩
    · rw [List.cons_append, begun_cons_error _ hs, begun_cons_error _ hs]
    · rw [inOrder_cons_ok rest hs] at h
      rw [List.cons_append, begun_cons_ok _ hs, begun_cons_ok _ hs, ih h]

theorem begun_append_ok (h : inOrder host p settings steps w = (.ok (), w')) :
    begun host p settings (steps ++ later) w =
      begun host p settings steps w ++ begun host p settings later w' := by
  induction steps generalizing w with
  | nil =>
    obtain rfl : w = w' := by simpa [inOrder, Action.pure] using h
    rfl
  | cons s rest ih =>
    obtain ⟨a, w₁, hs, hrest⟩ := Action.andThen_eq_ok.mp h
    rw [List.cons_append, begun_cons_ok _ hs, begun_cons_ok _ hs, ih hrest, List.cons_append]

theorem begun_of_ok (h : inOrder host p settings steps w = (.ok (), w')) :
    (begun host p settings steps w).map Prod.fst = steps := by
  induction steps generalizing w with
  | nil => rfl
  | cons s rest ih =>
    obtain ⟨a, w₁, hs, hrest⟩ := Action.andThen_eq_ok.mp h
    rw [begun_cons_ok _ hs, List.map_cons, ih hrest]

theorem begun_of_error (h : inOrder host p settings steps w = (.error problem, w')) :
    ∃ earlier s w₁ unbegun,
      steps = earlier.map Prod.fst ++ s :: unbegun ∧
      begun host p settings steps w = earlier ++ [(s, w₁)] ∧
      (∀ b ∈ earlier, (b.1.act host p settings b.2).1 = .ok ()) ∧
      s.act host p settings w₁ = (.error problem, w') := by
  induction steps generalizing w with
  | nil => simp [inOrder, Action.pure] at h
  | cons s rest ih =>
    rcases hs : s.act host p settings w with ⟨problem' | a, w₁⟩
    · rw [inOrder_cons_error rest hs] at h
      exact ⟨[], s, w, rest, rfl, begun_cons_error rest hs, by simp, hs.trans h⟩
    · rw [inOrder_cons_ok rest hs] at h
      obtain ⟨earlier, s', w₂, unbegun, rfl, htrail, hearlier, hlast⟩ := ih h
      refine ⟨(s, w) :: earlier, s', w₂, unbegun, rfl, ?_, ?_, hlast⟩
      · rw [begun_cons_ok _ hs, htrail, List.cons_append]
      intro b hb
      rcases List.mem_cons.mp hb with rfl | hb
      · exact congrArg Prod.fst hs
      · exact hearlier b hb

end

section

variable (host : Host ω) (p : Pipeline) (settings : Settings)

theorem act_fst_ok (s : Step) (w : ω) :
    (s.act host p settings w).1 = .ok () ↔ s.Passes host p settings w := by
  cases s with
  | precondition =>
    by_cases hthere : host.isDirectory w settings.preconditionDir = true <;>
      simp [Step.act, checkPrecondition, Step.Passes, hthere]
  | probe role flag =>
    rw [Step.act, probe, Action.andThen_fst_ok]
    refine exists_congr fun outcome => (and_iff_left rfl).trans ?_
    exact Operation.orElse_fst_ok
  | scratchPath =>
    by_cases hsafe : isSafeScratch settings.scratchDir = true <;>
      simp [Step.act, checkScratch, Step.Passes, hsafe, Action.pure, Action.fail]
  | removal =>
    by_cases hpresent : host.isPresent w settings.scratchDir = true <;>
      simp [Step.act, removeOld, Step.Passes, hpresent, Operation.orElse_fst_ok]
  | creation => exact Operation.orElse_fst_ok
  | runtimeDirectory => exact Operation.orElse_fst_ok
  | runtime => exact Pipeline.start_fst_ok

theorem act_snd (s : Step) (w : ω) :
    (s.act host p settings w).2 =
      (s.requests host p settings w).foldl (Request.perform host) w := by
  cases s with
  | precondition =>
    by_cases hthere : host.isDirectory w settings.preconditionDir = true <;>
      simp [Step.act, checkPrecondition, Step.requests, hthere]
  | probe role flag =>
    rw [Step.act, probe, Action.andThen_snd _ fun _ _ => rfl]
    exact Operation.orElse_snd
  | scratchPath =>
    by_cases hsafe : isSafeScratch settings.scratchDir = true <;>
      simp [Step.act, checkScratch, Step.requests, hsafe, Action.pure, Action.fail]
  | removal =>
    by_cases hpresent : host.isPresent w settings.scratchDir = true <;>
      simp [Step.act, removeOld, Step.requests, hpresent, Operation.orElse_snd, Request.perform]
  | creation => exact Operation.orElse_snd
  | runtimeDirectory => exact Operation.orElse_snd
  | runtime => exact Pipeline.start_snd

theorem inOrder_snd (steps : List Step) (w : ω) :
    (inOrder host p settings steps w).2 =
      (requested host p settings (begun host p settings steps w)).foldl
        (Request.perform host) w := by
  induction steps generalizing w with
  | nil => rfl
  | cons s rest ih =>
    have hs := act_snd host p settings s w
    rcases hw : s.act host p settings w with ⟨problem | a, w₁⟩
    · rw [inOrder_cons_error rest hw, begun_cons_error rest hw]
      simpa [hw, requested] using hs
    · rw [inOrder_cons_ok rest hw, begun_cons_ok rest hw, ih, requested_cons,
        List.foldl_append, ← hs, hw]

end

end Workspace

end Proctor
