import Proctor.Program
import Proctor.Proofs.Build.Stages
import Proctor.Proofs.Path.Shown
import Proctor.Proofs.Workspace.Scratch

/-!
# The program that is run

A test program is started by the text that its path is shown as. So what is started is the executable
of the test in the directory that the scratch directory is shown as. A slash is always in its name,
and it is not searched for. It is the file that the linker was told to write exactly if the path of
the scratch directory is text.
-/

set_option autoImplicit false

namespace Proctor.Program

open Proctor.Workspace

variable {ω : Type}

theorem notes_execute (host : Host ω) (limit : Option Duration) (executable : Path) :
    Notes (fun _ => [.launch { program := executable.display, keepsErrors := false } limit])
      (execute host limit executable) (execute (watched host) limit executable) :=
  (Notes.orElse _ _ _).andThen_quiet fun _ => Notes.pure _

theorem bytes_ne_nil_of_safe {p : Path} (h : isSafeScratch p = true) : p.bytes ≠ [] := by
  intro hnone
  obtain rfl : p = ⟨[]⟩ := congrArg Path.mk hnone
  exact absurd h (by decide)

theorem isAbsolute_executable {id : String} (h : '/' ∉ id.toList) :
    (Path.ofString (id ++ ".exe")).isAbsolute = false :=
  Path.isAbsolute_plain (Artifacts.plain_name h (by decide))

/-- The linker is told last where to write. Then the test is started by a name with a slash in it,
which is where the linker wrote exactly if the path of the scratch directory is text. It always
names the executable of the test in the directory that the scratch directory is shown as. -/
theorem linked_program_runs_iff_text (host : Host ω) (p : Pipeline) (settings : Settings)
    (runtime executable : Path) (case : TestCase) (w w' : ω) (log : List Request)
    (haccepted : (checkScratch settings.scratchDir w).1 = .ok ())
    (hid : '/' ∉ case.id.toList)
    (hbuilt : (collaborators (watched host) p settings runtime).build case (w, []) =
      (.ok executable, w', log)) :
    ∃ (inputs : List Bytes) (out : Bytes) (program : String),
      log.getLast? = some (.launch
        { program := p.toolchain.linker, arguments := inputs ++ [Bytes.ofString "-o", out] }
        p.limit) ∧
      ((collaborators (watched host) p settings runtime).execute executable (w', log)).2.2 =
        log ++ [.launch { program, keepsErrors := false } settings.programLimit] ∧
      '/' ∈ program.toList ∧
      (Bytes.ofString program = out ↔
        ∃ text, Bytes.ofString text = settings.scratchDir.bytes) ∧
      Bytes.ofString program =
        (Artifacts.ofTest (.ofString settings.scratchDir.display) case.id).executable.bytes := by
  obtain ⟨a, ⟨w₁, log₁⟩, hbuild, hgiven⟩ := Action.andThen_eq_ok.mp hbuilt
  obtain ⟨hexecutable, hend⟩ := Prod.mk.inj hgiven
  obtain ⟨rfl, rfl⟩ := Prod.mk.inj hend
  obtain ⟨rfl, hlog⟩ := Pipeline.requests_of_built p host _ _ _ _ hbuild
  obtain rfl := Except.ok.inj hexecutable
  have hsafe := (checkScratch_fst_ok w).mp haccepted
  have hname := isAbsolute_executable hid
  refine ⟨[runtime.bytes, (Artifacts.ofTest settings.scratchDir case.id).object.bytes],
    (Artifacts.ofTest settings.scratchDir case.id).executable.bytes,
    (Artifacts.ofTest settings.scratchDir case.id).executable.display,
    ?linked, ?started, ?slash, Path.entry_display_eq_iff _ hname,
    Path.ofString_display_entry _ _⟩
  case linked =>
    rw [hlog]
    rfl
  case started => exact congrArg (fun ending => ending.2.2) (notes_execute host _ _ w₁ log₁)
  case slash =>
    rw [Path.slash_mem_display]
    exact Path.slash_mem_join _ _ (bytes_ne_nil_of_safe hsafe) hname

theorem linked_program_of_accented_scratch :
    let settings : Settings := { scratchDir := .ofString "out/é/." }
    let c := collaborators (watched Pipeline.slowLinker) ⟨{}, none⟩ settings (.ofString "rt.s")
    let built := c.build (.ofSource "t" (.ofString "test/t") "") ((), [])
    ∃ inputs out program,
      built.2.2.getLast? = some (.launch
        { program := "gcc", arguments := inputs ++ [Bytes.ofString "-o", out] } none) ∧
      (c.execute (.ofString "out/é/./t.exe") built.2).2.2.getLast? =
        some (.launch { program, keepsErrors := false } settings.programLimit) ∧
      Bytes.ofString program = out := by
  intro settings c built
  obtain ⟨inputs, out, program, hlinked, hstarted, -, hsame, -⟩ :=
    linked_program_runs_iff_text Pipeline.slowLinker ⟨{}, none⟩ settings (.ofString "rt.s")
      (.ofString "out/é/./t.exe") (.ofSource "t" (.ofString "test/t") "") () () built.2.2 rfl
      (by decide) rfl
  refine ⟨inputs, out, program, hlinked, ?_, hsame.mpr ⟨"out/é/.", rfl⟩⟩
  exact (congrArg List.getLast? hstarted).trans List.getLast?_concat

/-- A scratch directory is accepted whatever its bytes are, but in the name of the program those that
are not text are replaced. -/
theorem linked_program_need_not_run :
    ¬ ∀ (scratch executable : Path) (id : String) (log : List Request),
      let c := collaborators (watched Pipeline.slowLinker) ⟨{}, none⟩ { scratchDir := scratch }
        (.ofString "rt.s")
      (checkScratch scratch ()).1 = .ok () → '/' ∉ id.toList →
      c.build (.ofSource id (.ofString "test/t") "") ((), []) = (.ok executable, (), log) →
      ∃ (linking running : Invocation) (limit : Option Duration),
        log.getLast? = some (.launch linking none) ∧
        (c.execute executable ((), log)).2.2.getLast? = some (.launch running limit) ∧
        linking.arguments.getLast? = some (Bytes.ofString running.program) := by
  intro hruns
  obtain ⟨linking, running, limit, hlinked, hstarted, hsame⟩ :=
    hruns ⟨[0xFF]⟩ ⟨0xFF :: Bytes.ofString "/t.exe"⟩ "t" _ rfl (by decide) rfl
  obtain ⟨rfl, -⟩ := Request.launch.inj (Option.some.inj hlinked)
  obtain ⟨rfl, -⟩ := Request.launch.inj (Option.some.inj hstarted)
  exact absurd hsame (by decide)

end Proctor.Program
