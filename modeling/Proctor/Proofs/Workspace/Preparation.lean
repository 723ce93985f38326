import Proctor.Program
import Proctor.Proofs.Workspace.Steps

/-!
# Nothing is changed before all is checked

The checks come before the first request that changes anything. One that fails therefore leaves all
files as they were, as long as trying a program does. A run that is not ready looks for no tests and
prints nothing.
-/

set_option autoImplicit false

namespace Proctor

namespace Workspace

variable {ω : Type}

section

variable (host : Host ω) (p : Pipeline) (settings : Settings)

theorem prepare_eq_inOrder :
    prepare host p settings =
      (inOrder host p settings (Step.checks ++ Step.changes)).andThen
        fun _ => .pure (runtimeObject settings.scratchDir) := by
  simp only [prepare, probeAll, reset, buildRuntime, Step.checks, Step.changes, List.cons_append,
    List.nil_append, inOrder, Step.act, Action.andThen_assoc, Action.pure_andThen]

theorem prepare_watched (w : ω) :
    prepare (watched host) p settings (w, []) =
      ((prepare host p settings w).1, (prepare host p settings w).2,
        requested host p settings
          (begun host p settings (Step.checks ++ Step.changes) w)) := by
  have hnotes := (notes_inOrder host p settings (Step.checks ++ Step.changes)).andThen_quiet
    fun _ => Notes.pure (runtimeObject settings.scratchDir)
  simpa only [prepare_eq_inOrder, List.nil_append] using hnotes w []

theorem prepare_snd (w : ω) :
    (prepare host p settings w).2 =
      (requested host p settings
        (begun host p settings (Step.checks ++ Step.changes) w)).foldl
          (Request.perform host) w := by
  rw [prepare_eq_inOrder, Action.andThen_snd _ fun _ _ => rfl, inOrder_snd]

end

section

variable {host : Host ω} {p : Pipeline} {settings : Settings} {φ : Type} {files : ω → φ}

/-- The checks change no file unless a program does that is only tried. -/
theorem checks_keep
    (hprobe : ∀ role flag, Step.probe role flag ∈ Step.checks →
      ∀ w, files (trial host p role flag w).2 = files w)
    {trail : List (Step × ω)} (htrail : ∀ b ∈ trail, b.1 ∈ Step.checks) (w : ω) :
    files ((requested host p settings trail).foldl (Request.perform host) w) = files w := by
  induction trail generalizing w with
  | nil => rfl
  | cons b rest ih =>
    obtain ⟨s, w₁⟩ := b
    have hs : s ∈ Step.checks := htrail (s, w₁) List.mem_cons_self
    rw [requested_cons, List.foldl_append]
    refine (ih (fun b hb => htrail b (List.mem_cons_of_mem _ hb)) _).trans ?_
    cases s with
    | precondition | scratchPath => rfl
    | probe role flag => exact hprobe role flag hs w
    | removal | creation | runtimeDirectory | runtime => exact absurd hs (by decide)

theorem checks_of_ok {w w' : ω} (h : inOrder host p settings Step.checks w = (.ok (), w')) :
    host.isDirectory w settings.preconditionDir = true ∧
      (∃ outcome, (trial host p .assembler "-help" w).1 = .ok outcome) ∧
      (∃ outcome,
        (trial host p .linker "--help" (trial host p .assembler "-help" w).2).1 = .ok outcome) ∧
      isSafeScratch settings.scratchDir = true := by
  have hpass {s : Step} {u u' : ω} (hs : s.act host p settings u = (.ok (), u')) :
      s.Passes host p settings u ∧
        u' = (s.requests host p settings u).foldl (Request.perform host) u :=
    ⟨(act_fst_ok host p settings s u).mp (congrArg Prod.fst hs),
      (congrArg Prod.snd hs).symm.trans (act_snd host p settings s u)⟩
  obtain ⟨_, w₁, hprecondition, h⟩ := Action.andThen_eq_ok.mp h
  obtain ⟨_, w₂, hassembler, h⟩ := Action.andThen_eq_ok.mp h
  obtain ⟨_, w₃, hlinker, h⟩ := Action.andThen_eq_ok.mp h
  obtain ⟨_, w₄, hscratch, _⟩ := Action.andThen_eq_ok.mp h
  obtain ⟨hthere, rfl⟩ := hpass hprecondition
  obtain ⟨hfirst, rfl⟩ := hpass hassembler
  exact ⟨hthere, hfirst, (hpass hlinker).1, (hpass hscratch).1⟩

theorem begun_of_failed_check {w : ω}
    (hfails : ∀ w', inOrder host p settings Step.checks w ≠ (.ok (), w')) :
    (∃ problem, (prepare host p settings w).1 = .error problem) ∧
      (begun host p settings (Step.checks ++ Step.changes) w).map Prod.fst <+: Step.checks := by
  rcases hchecks : inOrder host p settings Step.checks w with ⟨problem | a, w₁⟩
  · obtain ⟨earlier, s, w₂, unbegun, hsteps, htrail, -, -⟩ := begun_of_error hchecks
    refine ⟨⟨problem, ?_⟩, unbegun, ?_⟩
    · simp [prepare_eq_inOrder, Action.andThen, inOrder_append_error hchecks]
    · rw [begun_append_error hchecks, htrail, hsteps]
      simp
  · exact absurd hchecks (hfails w₁)

theorem prepare_of_error {problem : Problem} {w : ω}
    (h : (prepare host p settings w).1 = .error problem) :
    inOrder host p settings (Step.checks ++ Step.changes) w =
      (.error problem, (prepare host p settings w).2) := by
  rw [prepare_eq_inOrder] at h ⊢
  rcases hsteps : inOrder host p settings (Step.checks ++ Step.changes) w with ⟨problem' | a, w₁⟩
  · simpa [Action.andThen, hsteps] using h
  · simp [Action.andThen, Action.pure, hsteps] at h

theorem prepare_of_ok {path : Path} {w : ω} (h : (prepare host p settings w).1 = .ok path) :
    path = runtimeObject settings.scratchDir ∧
      inOrder host p settings (Step.checks ++ Step.changes) w =
        (.ok (), (prepare host p settings w).2) := by
  rw [prepare_eq_inOrder] at h ⊢
  rcases hsteps : inOrder host p settings (Step.checks ++ Step.changes) w with ⟨problem | a, w₁⟩
  · simp [Action.andThen, hsteps] at h
  · simpa [Action.andThen, Action.pure, hsteps, eq_comm] using h

theorem assembled_of_ok {w w' : ω}
    (h : inOrder host p settings (Step.checks ++ Step.changes) w = (.ok (), w')) :
    ∃ earlier w₁ outcome,
      begun host p settings (Step.checks ++ Step.changes) w = earlier ++ [(.runtime, w₁)] ∧
      host.launch (assembling p settings) p.limit w₁ = (.ok outcome, w') ∧
      outcome.success = true := by
  have hsteps : Step.checks ++ Step.changes =
      (Step.checks ++ [.removal, .creation, .runtimeDirectory]) ++ [.runtime] := rfl
  rw [hsteps] at h ⊢
  rw [inOrder_append] at h
  obtain ⟨_, w₁, hearlier, hlast⟩ := Action.andThen_eq_ok.mp h
  obtain ⟨_, w₂, hruntime, hend⟩ := Action.andThen_eq_ok.mp hlast
  obtain rfl : w₂ = w' := (Prod.mk.inj hend).2
  obtain ⟨outcome, hlaunch, hsuccess⟩ := Pipeline.start_eq_ok.mp hruntime
  refine ⟨begun host p settings (Step.checks ++ [.removal, .creation, .runtimeDirectory]) w, w₁,
    outcome, ?_, hlaunch, hsuccess⟩
  rw [begun_append_ok hearlier]
  simp [begun, hruntime]

/-- A run that could not get ready has printed nothing and asked for nothing more. It would have
ended the same whatever is listed, whatever the files hold and whatever the time is. -/
theorem run_unready {problem : Problem} {w : ω}
    (h : (prepare host ⟨settings.toolchain, settings.toolLimit⟩ settings w).1 = .error problem)
    (listing : ω → Path → Except Cause Listing) (content : ω → Path → Except Cause Bytes)
    (isFile : ω → Path → Bool) (now : ω → Nat) (names : List String) (verbose : Bool) :
    Program.run
        (watched
          { host with listing := listing, content := content, isFile := isFile, now := now })
        settings names verbose (w, []) =
      ⟨[], some problem.report,
        (prepare (watched host) ⟨settings.toolchain, settings.toolLimit⟩ settings (w, [])).2⟩ := by
  have hready : prepare (watched
        { host with listing := listing, content := content, isFile := isFile, now := now })
      ⟨settings.toolchain, settings.toolLimit⟩ settings (w, []) =
      (.error problem,
        (prepare (watched host) ⟨settings.toolchain, settings.toolLimit⟩ settings (w, [])).2) := by
    refine Prod.ext ?_ rfl
    exact (congrArg Prod.fst (prepare_watched host _ settings w)).trans h
  simp only [Program.run, hready]

end

/-- Getting ready takes its steps in order, asks nothing of the system but what the steps begun
request, and leaves what these requests make of the world. It ends with the problem of the first
step that does not pass, and begins none after it. If the directory that must be there is missing, a
program cannot be started or the scratch directory has an unsafe path, then nothing but checks is
begun and all files are as they were. If all goes well the result is the runtime object, and the
last request was to assemble it. A run that is not ready prints nothing and asks for nothing
more. -/
theorem prepare_checks_before_changes (host : Host ω) (settings : Settings) {φ : Type}
    (files : ω → φ)
    (hprobe : ∀ role flag, Step.probe role flag ∈ Step.checks → ∀ w,
      files (trial host ⟨settings.toolchain, settings.toolLimit⟩ role flag w).2 = files w)
    (w : ω) :
    let p : Pipeline := ⟨settings.toolchain, settings.toolLimit⟩
    let steps := Step.checks ++ Step.changes
    let trail := begun host p settings steps w
    let ready := prepare host p settings w
    let seen := prepare (watched host) p settings (w, [])
    seen = (ready.1, ready.2, requested host p settings trail) ∧
    ready.2 = (requested host p settings trail).foldl (Request.perform host) w ∧
    (∀ (s : Step) w₁, (s.act host p settings w₁).1 = .ok () ↔ s.Passes host p settings w₁) ∧
    (∀ problem, ready.1 = .error problem →
      ∃ earlier s w₁ unbegun,
        steps = earlier.map Prod.fst ++ s :: unbegun ∧ trail = earlier ++ [(s, w₁)] ∧
        (∀ b ∈ earlier, (b.1.act host p settings b.2).1 = .ok ()) ∧
        s.act host p settings w₁ = (.error problem, ready.2)) ∧
    ((host.isDirectory w settings.preconditionDir = false ∨
        (∃ cause, (trial host p .assembler "-help" w).1 = .error cause) ∨
        (∃ cause, (trial host p .linker "--help" (trial host p .assembler "-help" w).2).1 =
          .error cause) ∨
        isSafeScratch settings.scratchDir = false) →
      (∃ problem, ready.1 = .error problem) ∧ trail.map Prod.fst <+: Step.checks ∧
        files ready.2 = files w) ∧
    (∀ path, ready.1 = .ok path →
      path = runtimeObject settings.scratchDir ∧ trail.map Prod.fst = steps ∧
        ∃ earlier w₁ outcome, trail = earlier ++ [(.runtime, w₁)] ∧
          host.launch (assembling p settings) p.limit w₁ = (.ok outcome, ready.2) ∧
          outcome.success = true) ∧
    (∀ problem, ready.1 = .error problem → ∀ listing content isFile now names verbose,
      Program.run
          (watched
            { host with listing := listing, content := content, isFile := isFile, now := now })
          settings names verbose (w, []) =
        ⟨[], some problem.report, seen.2⟩) := by
  intro p steps trail ready seen
  refine ⟨prepare_watched host p settings w, prepare_snd host p settings w,
    act_fst_ok host p settings, ?first, ?unchanged, ?assembled, fun problem => run_unready⟩
  case first =>
    intro problem hproblem
    exact begun_of_error (prepare_of_error hproblem)
  case unchanged =>
    intro hcheck
    have hfails : ∀ w', inOrder host p settings Step.checks w ≠ (.ok (), w') := by
      intro w' hok
      obtain ⟨hthere, ⟨first, hfirst⟩, ⟨second, hsecond⟩, hsafe⟩ := checks_of_ok hok
      rcases hcheck with hmissing | ⟨cause, hcause⟩ | ⟨cause, hcause⟩ | hrejected
      · simp [hmissing] at hthere
      · simp [hcause] at hfirst
      · simp [hcause] at hsecond
      · simp [hrejected] at hsafe
    obtain ⟨hproblem, htrail⟩ := begun_of_failed_check hfails
    refine ⟨hproblem, htrail, ?_⟩
    rw [show ready.2 = _ from prepare_snd host p settings w]
    exact checks_keep hprobe (fun b hb => htrail.subset (List.mem_map_of_mem hb)) w
  case assembled =>
    intro path hpath
    obtain ⟨hobject, hsteps⟩ := prepare_of_ok hpath
    exact ⟨hobject, begun_of_ok hsteps, assembled_of_ok hsteps⟩

/-- A system whose world is the number of files in the scratch directory. Every program ends badly
and too late, and the linker is not there at all. -/
def linkerless : Host Nat where
  isDirectory _ _ := true
  isFile _ _ := false
  isPresent files _ := 0 < files
  content _ _ := .error .notFound
  listing _ _ := .error .notFound
  removeTree _ _ := (.ok (), 0)
  createDirectories _ files := (.ok (), files)
  launch invocation _ files :=
    if invocation.program = "gcc" then (.error .notFound, files)
    else (.ok { status := .exited 1, timedOut := true }, files)
  now _ := 0

theorem missing_linker_spares_scratch :
    prepare linkerless ⟨{}, some (.ofSeconds 120)⟩ {} 7 =
      (.error (.toolNotFound .linker "gcc" "is gcc installed?" .notFound), 7) := by
  have hprobe : ∀ role flag, Step.probe role flag ∈ Step.checks → ∀ w,
      id (trial linkerless ⟨{}, some (.ofSeconds 120)⟩ role flag w).2 = id w := by
    intro role flag _ w
    simp only [trial, linkerless]
    split <;> rfl
  obtain ⟨-, -, -, -, hunchanged, -⟩ := prepare_checks_before_changes linkerless {} id hprobe 7
  obtain ⟨-, -, hkept⟩ := hunchanged (.inr (.inr (.inl ⟨.notFound, rfl⟩)))
  exact Prod.ext rfl hkept

end Workspace

end Proctor
