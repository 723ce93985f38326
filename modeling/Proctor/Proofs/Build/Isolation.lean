import Mathlib.Logic.Function.Basic
import Proctor.Proofs.Build.Places
import Proctor.Workspace

/-!
# Builds that do not mix

The programs of a build are taken to be functions: what one writes depends on its role and on what
its inputs hold, and it writes only where it was told to. One build then changes the three artifacts
of its test and nothing else, and reads its source, the runtime object and what it wrote itself.
Since no two tests share a place, building one test after another leaves every executable as if its
test had been built alone.
-/

set_option autoImplicit false

namespace Proctor

variable {ω : Type}

/-- Files as programs see them: where relative paths start, what a place holds if a file is there,
and what a program writes, given its role and what its inputs hold. -/
structure View (ω : Type) where
  here : Path.Location
  files : ω → Path.Location → Option Bytes
  product : Role → List (Option Bytes) → Bytes

namespace View

def content (v : View ω) (w : ω) (p : Path) : Option Bytes := v.files w (p.locate v.here)

def runtime (v : View ω) (source : Option Bytes) : Bytes := v.product .assembler [source]

def executable (v : View ω) (runtime source : Option Bytes) : Bytes :=
  v.product .linker
    [runtime, some (v.product .assembler [some (v.product .compiler [source])])]

def Outside (v : View ω) (directory p : Path) : Prop :=
  ¬ directory.locate v.here <+: p.locate v.here

instance (v : View ω) (directory p : Path) : Decidable (v.Outside directory p) :=
  inferInstanceAs (Decidable ¬ _)

end View

namespace Pipeline

/-- The programs read only the inputs on their command line and write only the file that is named
last. Making directories changes no file. -/
structure Functional (p : Pipeline) (host : Host ω) (v : View ω) : Prop where
  launch : ∀ (role : Role) (inputs : List Path) (out : Path) (w w' : ω) (outcome : Outcome),
    host.launch (p.invocation role (inputs.map Path.bytes ++ [outputOption, out.bytes])) p.limit w =
      (.ok outcome, w') → outcome.success = true →
    v.files w' = Function.update (v.files w) (out.locate v.here)
      (some (v.product role (inputs.map (v.content w))))
  createDirectories : ∀ (dir : Path) (w : ω), v.files (host.createDirectories dir w).2 = v.files w

variable {p : Pipeline} {host : Host ω} {v : View ω}

theorem outcomeProblem?_eq_none (p : Pipeline) (role : Role) (subject : Path) (outcome : Outcome) :
    p.outcomeProblem? role subject outcome = none ↔ outcome.success = true := by
  by_cases hlate : outcome.timedOut = true <;> by_cases hgood : outcome.status.success = true <;>
    simp [outcomeProblem?, Outcome.success, hlate, hgood]

theorem start_eq_ok {role : Role} {invocation : Invocation} {subject : Path} {w w' : ω} :
    p.start host role invocation subject w = (.ok (), w') ↔
      ∃ outcome, host.launch invocation p.limit w = (.ok outcome, w') ∧
        outcome.success = true := by
  rw [start, Action.andThen_eq_ok]
  constructor
  · rintro ⟨outcome, w₁, hlaunch, hrest⟩
    rcases hproblem : p.outcomeProblem? role subject outcome with _ | problem
    · rw [hproblem] at hrest
      obtain rfl : w₁ = w' := (Prod.mk.inj hrest).2
      exact ⟨outcome, Operation.orElse_eq_ok.mp hlaunch,
        (outcomeProblem?_eq_none p role subject outcome).mp hproblem⟩
    · rw [hproblem] at hrest
      exact absurd (Prod.mk.inj hrest).1 (by simp)
  · rintro ⟨outcome, hlaunch, hgood⟩
    refine ⟨outcome, w', Operation.orElse_eq_ok.mpr hlaunch, ?_⟩
    rw [(outcomeProblem?_eq_none p role subject outcome).mpr hgood]
    rfl

theorem invoke_files (hp : Functional p host v) {role : Role} (inputs : List Path)
    {out subject : Path} {w w' : ω}
    (h : p.invoke host role (inputs.map Path.bytes ++ [outputOption, out.bytes]) subject w =
      (.ok (), w')) :
    v.files w' = Function.update (v.files w) (out.locate v.here)
      (some (v.product role (inputs.map (v.content w)))) := by
  obtain ⟨outcome, hlaunch, hsuccess⟩ := start_eq_ok.mp h
  exact hp.launch role inputs out w w' outcome hlaunch hsuccess

section Update

variable {w w' : ω} {out : Path} {bytes : Bytes}

theorem content_written
    (h : v.files w' = Function.update (v.files w) (out.locate v.here) (some bytes)) :
    v.content w' out = some bytes := by
  rw [View.content, h, Function.update_self]

theorem files_kept
    (h : v.files w' = Function.update (v.files w) (out.locate v.here) (some bytes))
    {l : Path.Location} (hl : l ≠ out.locate v.here) : v.files w' l = v.files w l := by
  rw [h, Function.update_of_ne hl]

end Update

/-- One build leaves the executable of its test, made from its source and the runtime object, and
changes nothing but its artifacts. -/
theorem build_files (hp : Functional p host v) {id : String} {source runtime scratch : Path}
    {artifacts : Artifacts} {w w' : ω}
    (hruntime : runtime.locate v.here ∉ Artifacts.places v.here scratch id)
    (h : p.build host id source runtime scratch w = (.ok artifacts, w')) :
    artifacts = .ofTest scratch id ∧
      v.content w' (Artifacts.ofTest scratch id).executable =
        some (v.executable (v.content w runtime) (v.content w source)) ∧
      ∀ l ∉ Artifacts.places v.here scratch id, v.files w' l = v.files w l := by
  obtain ⟨_, w₁, hcompile, h⟩ := Action.andThen_eq_ok.mp h
  obtain ⟨_, w₂, hassemble, h⟩ := Action.andThen_eq_ok.mp h
  obtain ⟨_, w₃, hlink, h⟩ := Action.andThen_eq_ok.mp h
  obtain ⟨hartifacts, rfl⟩ := Prod.mk.inj h
  have hir := invoke_files hp [source] hcompile
  have hobject := invoke_files hp [(Artifacts.ofTest scratch id).ir] hassemble
  have hexecutable := invoke_files hp [runtime, (Artifacts.ofTest scratch id).object] hlink
  have hplaces (l : Path.Location) (hl : l ∉ Artifacts.places v.here scratch id) :
      l ≠ (Artifacts.ofTest scratch id).ir.locate v.here ∧
      l ≠ (Artifacts.ofTest scratch id).object.locate v.here ∧
      l ≠ (Artifacts.ofTest scratch id).executable.locate v.here := by
    simpa [Artifacts.places, Artifacts.paths] using hl
  refine ⟨(Except.ok.inj hartifacts).symm, ?_, ?_⟩
  · have hread : v.content w₂ runtime = v.content w runtime :=
      (files_kept hobject (hplaces _ hruntime).2.1).trans (files_kept hir (hplaces _ hruntime).1)
    rw [content_written hexecutable, List.map_cons, hread, List.map_cons, content_written hobject,
      List.map_cons, content_written hir]
    rfl
  · intro l hl
    obtain ⟨h₁, h₂, h₃⟩ := hplaces l hl
    rw [files_kept hexecutable h₃, files_kept hobject h₂, files_kept hir h₁]

def buildEach (p : Pipeline) (host : Host ω) (runtime scratch : Path) :
    List (String × Path) → Action ω (List Artifacts)
  | [] => .pure []
  | (id, source) :: tests =>
    (p.build host id source runtime scratch).andThen fun artifacts =>
      (buildEach p host runtime scratch tests).andThen fun others => .pure (artifacts :: others)

def buildAll (p : Pipeline) (host : Host ω) (runtimeSource scratch : Path)
    (tests : List (String × Path)) : Action ω (List Artifacts) :=
  (Workspace.buildRuntime host p runtimeSource scratch).andThen fun runtime =>
    buildEach p host runtime scratch tests

theorem buildEach_files (hp : Functional p host v) {runtime scratch : Path}
    {tests : List (String × Path)} {artifacts : List Artifacts} {w w' : ω}
    (hids : (tests.map Prod.fst).Nodup) (hflat : ∀ t ∈ tests, '/' ∉ t.1.toList)
    (hruntime : ∀ t ∈ tests, runtime.locate v.here ∉ Artifacts.places v.here scratch t.1)
    (hsources : ∀ s ∈ tests, ∀ t ∈ tests,
      s.2.locate v.here ∉ Artifacts.places v.here scratch t.1)
    (h : buildEach p host runtime scratch tests w = (.ok artifacts, w')) :
    artifacts = tests.map (fun t => .ofTest scratch t.1) ∧
      (∀ t ∈ tests, v.content w' (Artifacts.ofTest scratch t.1).executable =
        some (v.executable (v.content w runtime) (v.content w t.2))) ∧
      ∀ l, (∀ t ∈ tests, l ∉ Artifacts.places v.here scratch t.1) → v.files w' l = v.files w l := by
  induction tests generalizing w artifacts with
  | nil =>
    obtain ⟨hartifacts, rfl⟩ := Prod.mk.inj h
    exact ⟨(Except.ok.inj hartifacts).symm, by simp, fun _ _ => rfl⟩
  | cons test tests ih =>
    obtain ⟨first, w₁, hbuild, h⟩ := Action.andThen_eq_ok.mp h
    obtain ⟨others, w₂, hothers, h⟩ := Action.andThen_eq_ok.mp h
    obtain ⟨hartifacts, rfl⟩ := Prod.mk.inj h
    rw [List.map_cons, List.nodup_cons] at hids
    obtain ⟨hfirst, hlinked, hkept⟩ := build_files hp (hruntime _ List.mem_cons_self) hbuild
    obtain ⟨hrest, hlinkedRest, hkeptRest⟩ := ih hids.2
      (fun t ht => hflat t (List.mem_cons_of_mem _ ht))
      (fun t ht => hruntime t (List.mem_cons_of_mem _ ht))
      (fun s hs t ht => hsources s (List.mem_cons_of_mem _ hs) t (List.mem_cons_of_mem _ ht))
      hothers
    refine ⟨?_, ?_, ?_⟩
    · rw [← Except.ok.inj hartifacts, hfirst, hrest, List.map_cons]
    · intro t ht
      rcases List.mem_cons.mp ht with rfl | ht
      · have hplace : (Artifacts.ofTest scratch t.1).executable.locate v.here ∈
            Artifacts.places v.here scratch t.1 := by
          simp [Artifacts.places, Artifacts.paths]
        rw [← hlinked]
        refine hkeptRest _ fun u hu => ?_
        have hne : t.1 ≠ u.1 := fun he => hids.1 (he ▸ List.mem_map_of_mem hu)
        exact Artifacts.places_disjoint v.here scratch (hflat t List.mem_cons_self)
          (hflat u (List.mem_cons_of_mem _ hu)) hne hplace
      · have hsource : v.content w₁ t.2 = v.content w t.2 :=
          hkept _ (hsources t (List.mem_cons_of_mem _ ht) _ List.mem_cons_self)
        have hobject : v.content w₁ runtime = v.content w runtime :=
          hkept _ (hruntime _ List.mem_cons_self)
        rw [hlinkedRest t ht, hobject, hsource]
    · intro l hl
      rw [hkeptRest l fun t ht => hl t (List.mem_cons_of_mem _ ht),
        hkept l (hl _ List.mem_cons_self)]

theorem buildRuntime_files (hp : Functional p host v) {source scratch runtime : Path} {w w' : ω}
    (h : Workspace.buildRuntime host p source scratch w = (.ok runtime, w')) :
    runtime = runtimeObject scratch ∧
      v.files w' = Function.update (v.files w) ((runtimeObject scratch).locate v.here)
        (some (v.runtime (v.content w source))) := by
  obtain ⟨_, w₁, hcreate, h⟩ := Action.andThen_eq_ok.mp h
  obtain ⟨_, w₂, hassemble, h⟩ := Action.andThen_eq_ok.mp h
  obtain ⟨hruntime, rfl⟩ := Prod.mk.inj h
  have hsame : v.files w₁ = v.files w := by
    have hkept := hp.createDirectories (runtimeDirectory scratch) w
    rwa [Operation.orElse_eq_ok.mp hcreate] at hkept
  have hobject := invoke_files hp [source] hassemble
  rw [List.map_cons, View.content, hsame] at hobject
  exact ⟨(Except.ok.inj hruntime).symm, hobject⟩

/-- Whatever the tests are called and in whatever order they are built, each executable is the one
its source and the runtime make, the runtime object stays, and no other file than the artifacts and
that object changes. -/
theorem builds_do_not_mix (p : Pipeline) (host : Host ω) (v : View ω) (hp : Functional p host v)
    (scratch runtimeSource : Path) (tests : List (String × Path))
    (hids : (tests.map Prod.fst).Nodup) (hflat : ∀ t ∈ tests, '/' ∉ t.1.toList)
    (hsources : ∀ t ∈ tests, v.Outside scratch t.2) (artifacts : List Artifacts) (w w' : ω)
    (h : buildAll p host runtimeSource scratch tests w = (.ok artifacts, w')) :
    artifacts = tests.map (fun t => .ofTest scratch t.1) ∧
      (∀ t ∈ tests, v.content w' (Artifacts.ofTest scratch t.1).executable =
        some (v.executable (some (v.runtime (v.content w runtimeSource))) (v.content w t.2))) ∧
      v.content w' (runtimeObject scratch) = some (v.runtime (v.content w runtimeSource)) ∧
      ∀ l, l ≠ (runtimeObject scratch).locate v.here →
        (∀ t ∈ tests, l ∉ Artifacts.places v.here scratch t.1) → v.files w' l = v.files w l := by
  obtain ⟨runtime, w₁, hbuilt, hrest⟩ := Action.andThen_eq_ok.mp h
  obtain ⟨rfl, hobject⟩ := buildRuntime_files hp hbuilt
  have hplace (t : String × Path) (ht : t ∈ tests) :=
    Artifacts.runtime_notMem_places v.here scratch (hflat t ht)
  obtain ⟨hartifacts, hlinked, hkept⟩ := buildEach_files hp hids hflat hplace
    (fun s hs t ht => Artifacts.outside_places v.here scratch (hflat t ht) (hsources s hs)) hrest
  refine ⟨hartifacts, ?_, ?_, ?_⟩
  · intro t ht
    have hapart : t.2.locate v.here ≠ (runtimeObject scratch).locate v.here := by
      intro he
      refine hsources t ht ?_
      rw [he, Artifacts.locate_runtimeObject]
      exact List.prefix_append _ _
    have hsource : v.content w₁ t.2 = v.content w t.2 := files_kept hobject hapart
    rw [hlinked t ht, content_written hobject, hsource]
  · exact (hkept _ hplace).trans (content_written hobject)
  · intro l hl hplaces
    rw [hkept l hplaces, files_kept hobject hl]

def ledgerTools : Pipeline where
  toolchain := { compiler := ["c"], assembler := "a", linker := "l" }

def ledgerEntry (program : String) (inputs : List (Option Bytes)) : Bytes :=
  Bytes.ofString program ++ inputs.flatMap fun content => 0x28 :: content.getD [] ++ [0x29]

def ledger : View (Path.Location → Option Bytes) where
  here := [[0x70]]
  files := id
  product role := ledgerEntry (ledgerTools.toolchain.program role)

def ledgerHost : Host (Path.Location → Option Bytes) where
  isDirectory _ _ := true
  isFile w p := (ledger.content w p).isSome
  isPresent w p := (ledger.content w p).isSome
  content w p := .ok ((ledger.content w p).getD [])
  listing _ _ := .ok []
  removeTree _ w := (.ok (), w)
  createDirectories _ w := (.ok (), w)
  launch i _ w :=
    match i.arguments.reverse with
    | out :: _ :: inputs =>
      (.ok { status := .exited 0 },
        Function.update w (Path.locate ledger.here ⟨out⟩)
          (some (ledgerEntry i.program (inputs.reverse.map fun b => ledger.content w ⟨b⟩))))
    | _ => (.error .notFound, w)
  now _ := 0

theorem ledger_functional : Functional ledgerTools ledgerHost ledger := by
  refine ⟨?_, fun _ _ => rfl⟩
  intro role inputs out w w' outcome h _
  have hleading : ledgerTools.toolchain.leadingArguments role = [] := by cases role <;> rfl
  have harguments : (ledgerTools.invocation role
      (inputs.map Path.bytes ++ [outputOption, out.bytes])).arguments.reverse =
      out.bytes :: outputOption :: (inputs.map Path.bytes).reverse := by
    simp [invocation, hleading]
  simp only [ledgerHost, harguments, List.reverse_reverse, List.map_map] at h
  exact (Prod.mk.inj h).2.symm

/-- Names that look like each other's artifacts, where each source holds its own name. -/
theorem builds_with_like_names :
    let scratch := Path.ofString "./s/"
    let tests :=
      [("a", Path.ofString "t/1"), ("a.ll", .ofString "../p/2"), ("main", .ofString "/3")]
    let ending := buildAll ledgerTools ledgerHost (.ofString "main.d") scratch tests List.getLast?
    ending.1 = .ok (tests.map fun t => .ofTest scratch t.1) ∧
      ledger.content ending.2 (Artifacts.ofTest scratch "a.ll").executable =
        some (Bytes.ofString "l(a(main.d))(a(c(2)))") ∧
      ledger.content ending.2 (runtimeObject scratch) = some (Bytes.ofString "a(main.d)") := by
  intro scratch tests ending
  have hok : ending.1 = .ok (tests.map fun t => .ofTest scratch t.1) := rfl
  obtain ⟨-, hlinked, hruntime, -⟩ := builds_do_not_mix ledgerTools ledgerHost ledger
    ledger_functional scratch (.ofString "main.d") tests (by decide) (by decide) (by decide) _
    List.getLast? ending.2 (Prod.ext hok rfl)
  refine ⟨hok, ?_, ?_⟩
  · exact (hlinked ("a.ll", .ofString "../p/2") (by decide)).trans (congrArg some (by decide))
  · exact hruntime.trans (congrArg some (by decide))

end Pipeline

end Proctor
