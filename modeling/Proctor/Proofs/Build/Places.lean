import Proctor.Artifact
import Proctor.Proofs.Path.Location
import Proctor.Proofs.Text.Utf8.Ascii

/-!
# Where artifacts are

The name of an artifact is the name of its test with one of three endings. As the endings differ in
their last letter, a name tells the test and the ending, even where a test is called `a.ll` or
`main`. All of them stand directly in the scratch directory; the runtime object is one directory
further down.
-/

set_option autoImplicit false

namespace Proctor

theorem Bytes.ofString_injective : Function.Injective Bytes.ofString :=
  Utf8.encode_injective.comp fun _ _ h => String.toList_inj.mp h

theorem slash_mem_ofString (s : String) : slash ∈ Bytes.ofString s ↔ '/' ∈ s.toList := by
  have h := Utf8.mem_decodeLossy_ascii (Bytes.ofString s) (show 0x2F < 0x80 by decide)
  rw [Bytes.ofString, Utf8.decodeLossy_encode] at h
  exact h.symm

namespace Artifacts

def endings : List String := [".ll", ".s", ".exe"]

theorem endings_flat : ∀ e ∈ endings, '/' ∉ e.toList := by decide

theorem endings_last : ∀ e ∈ endings, ∃ b, (Bytes.ofString e).getLast? = some b ∧ b ≠ dot := by
  decide

theorem endings_differ : ∀ e ∈ endings, ∀ f ∈ endings,
    (Bytes.ofString e).getLast? = (Bytes.ofString f).getLast? → e = f := by
  decide

theorem last_name {id e : String} (he : e ∈ endings) :
    (Bytes.ofString (id ++ e)).getLast? = (Bytes.ofString e).getLast? := by
  obtain ⟨b, hb, -⟩ := endings_last e he
  rw [Bytes.ofString_append, List.getLast?_append, hb, Option.some_or]

theorem plain_name {id e : String} (hid : '/' ∉ id.toList) (he : e ∈ endings) :
    Path.Plain (Bytes.ofString (id ++ e)) := by
  obtain ⟨b, hb, hdot⟩ := endings_last e he
  refine Path.plain_of_last ?_ ((last_name he).trans hb) hdot
  rw [slash_mem_ofString, String.toList_append, List.mem_append]
  exact not_or.mpr ⟨hid, endings_flat e he⟩

/-- The name of an artifact tells which one it is, and of which test. -/
theorem name_injective {id id' e e' : String} (he : e ∈ endings) (he' : e' ∈ endings)
    (h : Bytes.ofString (id ++ e) = Bytes.ofString (id' ++ e')) : id = id' ∧ e = e' := by
  obtain rfl : e = e' := by
    apply endings_differ e he e' he'
    rw [← last_name he, h, last_name he']
  rw [Bytes.ofString_append, Bytes.ofString_append] at h
  exact ⟨Bytes.ofString_injective (List.append_cancel_right h), rfl⟩

def places (here : Path.Location) (scratch : Path) (id : String) : List Path.Location :=
  (ofTest scratch id).paths.map (Path.locate here)

variable (here : Path.Location) (scratch : Path)

theorem mem_places {id : String} (hid : '/' ∉ id.toList) {l : Path.Location} :
    l ∈ places here scratch id ↔
      ∃ e ∈ endings, l = Path.locate here scratch ++ [Bytes.ofString (id ++ e)] := by
  have hplace (e : String) (he : e ∈ endings) :
      Path.locate here (scratch.join (.ofString (id ++ e))) =
        Path.locate here scratch ++ [Bytes.ofString (id ++ e)] :=
    Path.locate_entry here scratch (plain_name hid he)
  have hir := hplace ".ll" (by decide)
  have hobject := hplace ".s" (by decide)
  have hexecutable := hplace ".exe" (by decide)
  simp [places, ofTest, paths, endings, hir, hobject, hexecutable]

theorem places_disjoint {id id' : String} (hid : '/' ∉ id.toList) (hid' : '/' ∉ id'.toList)
    (hne : id ≠ id') {l : Path.Location} (h : l ∈ places here scratch id) :
    l ∉ places here scratch id' := by
  obtain ⟨e, he, rfl⟩ := (mem_places here scratch hid).mp h
  rw [mem_places here scratch hid']
  rintro ⟨e', he', h⟩
  have hname := (List.cons.inj (List.append_cancel_left h)).1
  exact hne (name_injective he he' hname).1

theorem outside_places {id : String} (hid : '/' ∉ id.toList) {l : Path.Location}
    (h : ¬ Path.locate here scratch <+: l) : l ∉ places here scratch id := by
  rw [mem_places here scratch hid]
  rintro ⟨e, -, rfl⟩
  exact h (List.prefix_append _ _)

theorem plain_runtime : Path.Plain (Bytes.ofString "runtime") :=
  Path.plain_of_last (by decide) rfl (by decide)

theorem plain_main : Path.Plain (Bytes.ofString "main.s") :=
  Path.plain_of_last (by decide) rfl (by decide)

theorem locate_runtimeObject :
    Path.locate here (runtimeObject scratch) =
      Path.locate here scratch ++ [Bytes.ofString "runtime", Bytes.ofString "main.s"] := by
  rw [runtimeObject, Path.ofString, Path.locate_entry _ _ plain_main, runtimeDirectory,
    Path.ofString, Path.locate_entry _ _ plain_runtime, List.append_assoc]
  rfl

theorem runtime_notMem_places {id : String} (hid : '/' ∉ id.toList) :
    Path.locate here (runtimeObject scratch) ∉ places here scratch id := by
  rw [mem_places here scratch hid, locate_runtimeObject]
  rintro ⟨e, -, h⟩
  have hname := (List.cons.inj (List.append_cancel_left h)).2
  exact absurd hname (List.cons_ne_nil _ _)

end Artifacts

end Proctor
