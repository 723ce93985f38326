import Proctor.Proofs.Path.Components
import Proctor.Proofs.Workspace.Preparation

/-!
# Which directories may be wiped

A path may be wiped if its last step is a name, so that it leads to an entry of some directory and
not just to wherever its other steps lead. So the root is never wiped, and a relative path that
never goes up stays below the working directory. But a path may go up and come down again:
`../project` is the working directory itself if that is called `project`. When what is wiped is on
the way to the working directory is said here exactly.
-/

set_option autoImplicit false

namespace Proctor.Workspace

open Proctor.Path

theorem isSafeScratch_iff_lastComponent? (p : Path) :
    isSafeScratch p = true ↔ ∃ name, p.lastComponent? = some (.name name) := by
  rw [isSafeScratch]
  split
  · rename_i name hlast
    exact iff_of_true rfl ⟨name, hlast⟩
  · rename_i hlast
    refine iff_of_false (by simp) ?_
    rintro ⟨name, hname⟩
    exact hlast name hname

/-- The guard reads a path from its end, and sees the last of the steps that are read from its
start. -/
theorem isSafeScratch_iff_steps (p : Path) :
    isSafeScratch p = true ↔ ∃ before name, p.steps = before ++ [name] ∧ name ≠ [dot, dot] := by
  rw [isSafeScratch_iff_lastComponent?]
  constructor
  · rintro ⟨name, hlast⟩
    rcases List.eq_nil_or_concat p.steps with hsteps | ⟨before, last, hsteps⟩
    · exact absurd hlast (lastComponent?_ne_name hsteps name)
    · rw [List.concat_eq_append] at hsteps
      refine ⟨before, last, hsteps, ?_⟩
      rintro rfl
      rw [lastComponent?_concat hsteps, component, if_pos rfl] at hlast
      exact absurd hlast (by simp)
  · rintro ⟨before, name, hsteps, hname⟩
    exact ⟨name, by rw [lastComponent?_concat hsteps, component, if_neg hname]⟩

example : (["a/.", "./a//", "./", "/.", "x/../."].map fun s => isSafeScratch (.ofString s)) =
    [true, true, false, false, false] := by
  decide

section Guard

variable {ω : Type} {p : Path}

theorem checkScratch_fst_ok (w : ω) :
    (checkScratch p w).1 = .ok () ↔ isSafeScratch p = true := by
  by_cases hsafe : isSafeScratch p = true
  · simp [checkScratch, hsafe, Action.pure]
  · simp [checkScratch, hsafe, Action.fail]

theorem reset_of_rejected (host : Host ω) (h : ¬ isSafeScratch p = true) (w : ω) :
    reset host p w = (.error (.unsafeScratch p), w) := by
  simp [reset, checkScratch, h, Action.andThen, Action.fail]

theorem removeTree_mem_reset (host : Host ω) (h : isSafeScratch p = true) (w : ω) (path : Path) :
    .removeTree path ∈ (reset (watched host) p (w, [])).2.2 ↔
      path = p ∧ host.isPresent w p = true := by
  let settings : Settings := { scratchDir := p }
  have hremove := notes_act host ⟨{}, none⟩ settings .removal w []
  have hcreate (w₁ : ω) (log : List Request) :=
    notes_act host ⟨{}, none⟩ settings .creation w₁ log
  simp only [Step.act, Step.requests, settings, List.nil_append] at hremove hcreate
  rw [reset, checkScratch, if_pos h, Action.pure_andThen, Action.andThen, hremove]
  cases (removeOld host p w).1 with
  | error problem => by_cases hpresent : host.isPresent w p = true <;> simp [hpresent]
  | ok _ => by_cases hpresent : host.isPresent w p = true <;> simp [hpresent, hcreate]

end Guard

theorem entry_of_safe {p : Path} (h : isSafeScratch p = true) :
    ∃ before name, p.steps = before ++ [name] ∧
      ∀ here, locate here p = before.foldl advance (origin here p) ++ [name] := by
  obtain ⟨before, name, hsteps, hname⟩ := (isSafeScratch_iff_steps p).mp h
  exact ⟨before, name, hsteps, fun here => locate_concat here hsteps hname⟩

theorem locate_ne_nil_of_safe {p : Path} (h : isSafeScratch p = true) (here : Location) :
    locate here p ≠ [] := by
  obtain ⟨before, name, -, hlocate⟩ := entry_of_safe h
  rw [hlocate]
  exact List.append_ne_nil_of_right_ne_nil _ (List.cons_ne_nil name [])

theorem below_of_descending {p : Path} (h : isSafeScratch p = true) (here : Location)
    (hrelative : p.isAbsolute = false) (hdown : [dot, dot] ∉ p.steps) :
    here <+: locate here p ∧ here.length < (locate here p).length := by
  obtain ⟨before, name, hsteps, -⟩ := entry_of_safe h
  rw [locate_descending here hrelative hdown, hsteps]
  refine ⟨List.prefix_append _ _, ?_⟩
  simp only [List.length_append, List.length_singleton]
  omega

/-- A path is accepted just when it has a step and the last of its steps is not `..`. It leads then
to the entry with this name of the directory that the other steps lead to, never to the root, and
strictly below the working directory if it is relative and never goes up. With any other path
nothing is requested of the system and nothing is changed; the problem names the path. -/
theorem scratch_accepted_iff_entry {ω : Type} (host : Host ω) (w : ω) (p : Path) :
    let pieces := (p.bytes.splitOn slash).filter fun piece => ¬ (piece = [] ∨ piece = [dot])
    let accepted := (checkScratch p w).1 = .ok ()
    (accepted ↔ pieces ≠ [] ∧ pieces.getLast? ≠ some [dot, dot]) ∧
    (accepted →
      (∃ before name, pieces = before ++ [name] ∧ ∀ here : Location,
        locate here p = before.foldl advance (if p.isAbsolute then [] else here) ++ [name]) ∧
      (∀ here : Location, locate here p ≠ []) ∧
      (p.isAbsolute = false → [dot, dot] ∉ pieces → ∀ here : Location,
        here <+: locate here p ∧ here ≠ locate here p)) ∧
    (¬ accepted → reset (watched host) p (w, []) = (.error (.unsafeScratch p), w, [])) := by
  intro pieces accepted
  have haccepted : accepted ↔ isSafeScratch p = true := checkScratch_fst_ok w
  rw [haccepted]
  refine ⟨?exactly, fun hsafe => ⟨entry_of_safe hsafe, locate_ne_nil_of_safe hsafe, ?below⟩,
    fun hrejected => reset_of_rejected (watched host) hrejected (w, [])⟩
  case exactly =>
    rw [isSafeScratch_iff_steps]
    change (∃ before name, pieces = before ++ [name] ∧ name ≠ [dot, dot]) ↔ _
    constructor
    · rintro ⟨before, name, hpieces, hname⟩
      rw [hpieces, List.getLast?_concat]
      exact ⟨List.append_ne_nil_of_right_ne_nil _ (List.cons_ne_nil name []),
        fun hsame => hname (Option.some.inj hsame)⟩
    · rintro ⟨hne, hlast⟩
      refine ⟨pieces.dropLast, pieces.getLast hne, (List.dropLast_concat_getLast hne).symm, ?_⟩
      rwa [List.getLast?_eq_some_getLast hne, Ne, Option.some.injEq] at hlast
  case below =>
    intro hrelative hdown here
    obtain ⟨hway, hlength⟩ := below_of_descending hsafe here hrelative hdown
    refine ⟨hway, fun hsame => ?_⟩
    exact absurd hlength (by rw [← hsame]; exact Nat.lt_irrefl _)

/-- A directory is on the way to another if it is that one or above it. An entry is just if the
directory that it is in is, and its name comes next. -/
theorem entry_prefix_iff {above here : Location} {name : Bytes} :
    above ++ [name] <+: here ↔ ∃ below, here = above ++ name :: below := by
  constructor
  · rintro ⟨below, rfl⟩
    exact ⟨below, by rw [List.append_assoc, List.singleton_append]⟩
  · rintro ⟨below, rfl⟩
    exact ⟨below, by rw [List.append_assoc, List.singleton_append]⟩

/-- What a reset removes is an accepted path and nothing else. It is never the root. It is the
working directory or above it exactly if the steps before the last lead to a directory above the
working directory and the last is the next name on the way there. So it is neither if the path is
relative and never goes up, nor if its last name is not among those of the working directory. -/
theorem reset_reaches_working_directory_iff {ω : Type} (host : Host ω) (w : ω) (here : Location)
    (p : Path) (haccepted : (checkScratch p w).1 = .ok ()) :
    (∀ path, .removeTree path ∈ (reset (watched host) p (w, [])).2.2 ↔
      path = p ∧ host.isPresent w p = true) ∧
    locate here p ≠ [] ∧
    (∃ before name, p.steps = before ++ [name] ∧
      (locate here p <+: here ↔
        ∃ below, here = before.foldl advance (origin here p) ++ name :: below) ∧
      (name ∉ here → ¬ locate here p <+: here)) ∧
    (p.isAbsolute = false → [dot, dot] ∉ p.steps → ¬ locate here p <+: here) := by
  have hsafe := (checkScratch_fst_ok w).mp haccepted
  refine ⟨removeTree_mem_reset host hsafe w, locate_ne_nil_of_safe hsafe here, ?entry, ?below⟩
  case entry =>
    obtain ⟨before, name, hsteps, hlocate⟩ := entry_of_safe hsafe
    have hreaches : locate here p <+: here ↔
        ∃ below, here = before.foldl advance (origin here p) ++ name :: below := by
      rw [hlocate, entry_prefix_iff]
    refine ⟨before, name, hsteps, hreaches, fun hname hway => ?_⟩
    obtain ⟨below, hhere⟩ := hreaches.mp hway
    rw [hhere] at hname
    exact hname (by simp)
  case below =>
    intro hrelative hdown hway
    have hlength := (below_of_descending hsafe here hrelative hdown).2
    exact absurd hway.length_le (Nat.not_le.mpr hlength)

theorem nested_scratch_spares_project :
    ¬ locate [Bytes.ofString "home", Bytes.ofString "project"] (.ofString "./project/home/.") <+:
      [Bytes.ofString "home", Bytes.ofString "project"] := by
  have haccepted : (checkScratch (.ofString "./project/home/.") 7).1 = .ok () := rfl
  obtain ⟨-, -, -, hbelow⟩ := reset_reaches_working_directory_iff linkerless 7
    [Bytes.ofString "home", Bytes.ofString "project"] _ haccepted
  exact hbelow (by decide) (by decide)

/-- The guard alone does not keep the working directory: from `/home/project` the path `../project`
leads back to it. -/
theorem accepted_scratch_can_be_working_directory :
    ¬ ∀ (here : Location) (p : Path), (∀ name ∈ here, Plain name) →
      (checkScratch p ()).1 = .ok () → ¬ locate here p <+: here := by
  intro hspared
  have hplain : ∀ name ∈ [Bytes.ofString "home", Bytes.ofString "project"], Plain name := by
    rw [List.forall_mem_cons, List.forall_mem_singleton]
    exact ⟨plain_of_last (by decide) rfl (by decide), plain_of_last (by decide) rfl (by decide)⟩
  exact hspared _ (.ofString "../project") hplain rfl (by decide)

end Proctor.Workspace
