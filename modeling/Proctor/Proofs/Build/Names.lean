import Mathlib.Data.List.Nodup
import Mathlib.Data.List.ProdSigma
import Proctor.Proofs.Build.Places
import Proctor.Proofs.Path.Components

/-!
# Artifacts do not meet

As components, an artifact is the scratch directory and one name more, whatever the path of the
scratch directory looks like; the runtime object has two names more. The name tells the test and the
ending, so no two artifacts are the same file. No artifact is in the way of another one either: none
is a directory on the way to the runtime object.
-/

set_option autoImplicit false

namespace Proctor.Artifacts

variable (scratch : Path)

theorem components_paths {id : String} (hid : '/' ∉ id.toList) :
    (ofTest scratch id).paths.map Path.components =
      endings.map fun e => scratch.components ++ [.name (Bytes.ofString (id ++ e))] := by
  have hpaths : (ofTest scratch id).paths =
      endings.map fun e => scratch.join (.ofString (id ++ e)) := rfl
  rw [hpaths, List.map_map]
  exact List.map_congr_left fun e he => Path.components_entry scratch (plain_name hid he)

theorem components_runtimeDirectory :
    (runtimeDirectory scratch).components =
      scratch.components ++ [.name (Bytes.ofString "runtime")] :=
  Path.components_entry scratch plain_runtime

theorem components_runtimeObject :
    (runtimeObject scratch).components =
      scratch.components ++
        [.name (Bytes.ofString "runtime"), .name (Bytes.ofString "main.s")] := by
  rw [runtimeObject, Path.ofString, Path.components_entry _ plain_main,
    components_runtimeDirectory, List.append_assoc, List.singleton_append]

theorem name_ne_runtime {id e : String} (he : e ∈ endings) :
    Bytes.ofString (id ++ e) ≠ Bytes.ofString "runtime" := by
  have hend : ∀ e ∈ endings, ¬ e.toList <:+ "runtime".toList := by decide
  intro h
  have hname := congrArg String.toList (Bytes.ofString_injective h)
  rw [String.toList_append] at hname
  exact hend e he ⟨id.toList, hname⟩

section Tests

variable {scratch} {ids : List String}

theorem mem_paths (hflat : ∀ id ∈ ids, '/' ∉ id.toList) {p : Path}
    (hp : p ∈ ids.flatMap fun id => (ofTest scratch id).paths) :
    ∃ id ∈ ids, ∃ e ∈ endings,
      p.components = scratch.components ++ [.name (Bytes.ofString (id ++ e))] := by
  obtain ⟨id, hid, hp⟩ := List.mem_flatMap.mp hp
  have hcomponents : p.components ∈ (ofTest scratch id).paths.map Path.components :=
    List.mem_map_of_mem hp
  rw [components_paths scratch (hflat id hid)] at hcomponents
  obtain ⟨e, he, h⟩ := List.mem_map.mp hcomponents
  exact ⟨id, hid, e, he, h.symm⟩

theorem components_nodup (hdistinct : ids.Nodup) (hflat : ∀ id ∈ ids, '/' ∉ id.toList) :
    ((ids.flatMap fun id => (ofTest scratch id).paths).map Path.components).Nodup := by
  have hall : (ids.flatMap fun id => (ofTest scratch id).paths).map Path.components =
      (ids ×ˢ endings).map fun x =>
        scratch.components ++ [.name (Bytes.ofString (x.1 ++ x.2))] := by
    have hproduct : ids ×ˢ endings = ids.flatMap fun id => endings.map (Prod.mk id) := rfl
    rw [hproduct, List.map_flatMap, List.map_flatMap]
    refine List.flatMap_congr fun id hid => ?_
    rw [components_paths scratch (hflat id hid), List.map_map]
    rfl
  rw [hall]
  refine (hdistinct.product (by decide)).map_on ?_
  rintro ⟨id, e⟩ hx ⟨id', e'⟩ hy h
  have hname := Component.name.inj (List.cons.inj (List.append_cancel_left h)).1
  have he := (List.mem_product.mp hx).2
  have he' := (List.mem_product.mp hy).2
  obtain ⟨rfl, rfl⟩ := name_injective he he' hname
  rfl

theorem components_ne_runtimeObject (hflat : ∀ id ∈ ids, '/' ∉ id.toList) {p : Path}
    (hp : p ∈ ids.flatMap fun id => (ofTest scratch id).paths) :
    p.components ≠ (runtimeObject scratch).components := by
  obtain ⟨id, hid, e, he, hp⟩ := mem_paths hflat hp
  rw [hp, components_runtimeObject]
  intro h
  exact absurd (List.cons.inj (List.append_cancel_left h)).2 (List.cons_ne_nil _ _).symm

theorem components_ne_runtimeDirectory (hflat : ∀ id ∈ ids, '/' ∉ id.toList) {p : Path}
    (hp : p ∈ ids.flatMap fun id => (ofTest scratch id).paths) :
    p.components ≠ (runtimeDirectory scratch).components := by
  obtain ⟨id, hid, e, he, hp⟩ := mem_paths hflat hp
  rw [hp, components_runtimeDirectory]
  intro h
  have hname := Component.name.inj (List.cons.inj (List.append_cancel_left h)).1
  exact name_ne_runtime he hname

/-- No artifact stands where another file needs a directory. -/
theorem not_directory (hflat : ∀ id ∈ ids, '/' ∉ id.toList) {p q : Path}
    (hp : p ∈ ids.flatMap fun id => (ofTest scratch id).paths)
    (hq : q ∈ runtimeObject scratch :: ids.flatMap fun id => (ofTest scratch id).paths)
    (hway : p.components <+: q.components) : p.components = q.components := by
  have hdirectory := components_ne_runtimeDirectory hflat hp
  obtain ⟨id, hid, e, he, hp⟩ := mem_paths hflat hp
  rcases List.mem_cons.mp hq with rfl | hq
  · rw [hp, components_runtimeObject, List.prefix_append_right_inj] at hway
    rw [hp, components_runtimeDirectory] at hdirectory
    have hname := (List.cons_prefix_cons.mp hway).1
    exact absurd (by rw [hname]) hdirectory
  · obtain ⟨id', hid', e', he', hq⟩ := mem_paths hflat hq
    refine hway.eq_of_length ?_
    rw [hp, hq, List.length_append, List.length_append]
    rfl

end Tests

/-- Each artifact of a test is one component below the scratch directory and the runtime object two.
For different tests all these paths are different, none of the artifacts is the directory of the
runtime object, and none is a directory on the way to another of these files. -/
theorem paths_never_meet (scratch : Path) :
    (∀ id : String, '/' ∉ id.toList →
      (ofTest scratch id).paths.map Path.components =
        [".ll", ".s", ".exe"].map fun e =>
          scratch.components ++ [.name (Bytes.ofString (id ++ e))]) ∧
    (runtimeObject scratch).components =
      scratch.components ++
        [.name (Bytes.ofString "runtime"), .name (Bytes.ofString "main.s")] ∧
    (∀ ids : List String, ids.Nodup → (∀ id ∈ ids, '/' ∉ id.toList) →
      let artifacts := ids.flatMap fun id => (ofTest scratch id).paths
      artifacts.length = 3 * ids.length ∧
      ((runtimeObject scratch :: artifacts).map Path.components).Nodup ∧
      ∀ p ∈ artifacts,
        p.components ≠ (runtimeDirectory scratch).components ∧
        ∀ q ∈ runtimeObject scratch :: artifacts,
          p.components <+: q.components → p.components = q.components) := by
  refine ⟨fun id => components_paths scratch, components_runtimeObject scratch, ?_⟩
  intro ids hdistinct hflat artifacts
  refine ⟨?count, ?different, fun p hp =>
    ⟨components_ne_runtimeDirectory hflat hp, fun q hq => not_directory hflat hp hq⟩⟩
  case count =>
    have hthree (id : String) : (ofTest scratch id).paths.length = 3 := rfl
    simp [artifacts, List.length_flatMap, hthree, Nat.mul_comm]
  case different =>
    rw [List.map_cons, List.nodup_cons]
    refine ⟨?_, components_nodup hdistinct hflat⟩
    intro hmem
    obtain ⟨p, hp, hsame⟩ := List.mem_map.mp hmem
    exact components_ne_runtimeObject hflat hp hsame

theorem paths_of_like_names :
    ((runtimeObject (.ofString "out/.") ::
      ["", ".", "a", "a.ll", "main", "runtime"].flatMap fun id =>
        (ofTest (.ofString "out/.") id).paths).map Path.components).Nodup :=
  ((paths_never_meet (.ofString "out/.")).2.2 _ (by decide) (by decide)).2.1

end Proctor.Artifacts
