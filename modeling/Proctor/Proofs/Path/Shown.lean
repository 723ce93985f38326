import Proctor.Proofs.Path.Location
import Proctor.Proofs.Text.Utf8.Ascii

/-!
# Paths as they are shown

A path is shown as text, with replacement characters for the bytes that are not text. Slashes stay
where they are, so what a path is shown as is absolute, empty or ends in a slash just when the path
does, and a path may be shown before or after it is joined. Exactly the paths that are text are
shown as they are.
-/

set_option autoImplicit false

namespace Proctor.Path

def asShown (p : Path) : Path := .ofString p.display

theorem bytes_asShown (p : Path) : p.asShown.bytes = Bytes.ofString p.display := rfl

theorem asShown_eq_encode (p : Path) :
    p.asShown.bytes = Utf8.encode (Utf8.decodeLossy p.bytes) := by
  rw [bytes_asShown, display, Bytes.lossy, Bytes.ofString, String.toList_ofList]

theorem decodeLossy_asShown (p : Path) :
    Utf8.decodeLossy p.asShown.bytes = Utf8.decodeLossy p.bytes := by
  rw [asShown_eq_encode, Utf8.decodeLossy_encode]

theorem ofString_display_eq_iff (p : Path) :
    Bytes.ofString p.display = p.bytes ↔ p.asShown = p := by
  rw [← bytes_asShown]
  exact ⟨fun h => congrArg Path.mk h, fun h => congrArg Path.bytes h⟩

theorem asShown_ofString (s : String) : (ofString s).asShown = ofString s := by
  have hread : (Bytes.ofString s).lossy = s := by
    rw [Bytes.lossy, Bytes.ofString, Utf8.decodeLossy_encode, String.ofList_toList]
  exact congrArg ofString hread

/-- A path is shown as it is just when it is text. -/
theorem asShown_eq_iff (p : Path) : p.asShown = p ↔ ∃ text, Bytes.ofString text = p.bytes := by
  constructor
  · intro h
    exact ⟨p.display, congrArg Path.bytes h⟩
  · rintro ⟨text, htext⟩
    obtain rfl : ofString text = p := congrArg Path.mk htext
    exact asShown_ofString text

theorem slash_mem_display (p : Path) : '/' ∈ p.display.toList ↔ slash ∈ p.bytes := by
  rw [display, Bytes.lossy, String.toList_ofList]
  exact Utf8.mem_decodeLossy_ascii p.bytes (show 0x2F < 0x80 by decide)

theorem bytes_asShown_slash (a b : Bytes) :
    (asShown ⟨a ++ slash :: b⟩).bytes = (asShown ⟨a⟩).bytes ++ slash :: (asShown ⟨b⟩).bytes := by
  have hread : Utf8.decodeLossy (a ++ slash :: b) =
      Utf8.decodeLossy a ++ '/' :: Utf8.decodeLossy b :=
    Utf8.decodeLossy_append_ascii a b 0x2F (by decide)
  have hslash : String.utf8EncodeChar '/' = [slash] := by decide
  rw [asShown_eq_encode, asShown_eq_encode, asShown_eq_encode, hread]
  simp [Utf8.encode, hslash]

section Join

variable (p q : Path)

theorem isAbsolute_asShown : p.asShown.isAbsolute = p.isAbsolute := by
  have hfirst (bytes : Bytes) := Utf8.head_decodeLossy_ascii bytes (show 0x2F < 0x80 by decide)
  have hshown := hfirst p.asShown.bytes
  rw [decodeLossy_asShown, hfirst p.bytes] at hshown
  rw [isAbsolute, isAbsolute, Bool.eq_iff_iff, beq_iff_eq, beq_iff_eq]
  exact hshown.symm

theorem asShown_isEmpty : p.asShown.bytes.isEmpty = p.bytes.isEmpty := by
  rw [Bool.eq_iff_iff, List.isEmpty_iff, List.isEmpty_iff]
  constructor
  · intro h
    refine Utf8.decodeLossy_eq_nil ?_
    rw [← decodeLossy_asShown, h]
    rfl
  · intro h
    rw [asShown_eq_encode, h]
    rfl

theorem getLast_asShown :
    p.asShown.bytes.getLast? = some slash ↔ p.bytes.getLast? = some slash := by
  have hlast (bytes : Bytes) := Utf8.getLast_decodeLossy_ascii bytes (show 0x2F < 0x80 by decide)
  have hshown := hlast p.asShown.bytes
  rw [decodeLossy_asShown, hlast p.bytes] at hshown
  exact hshown.symm

theorem asShown_join : (p.join q).asShown = p.asShown.join q.asShown := by
  simp only [join, isAbsolute_asShown, asShown_isEmpty, beq_iff_eq, getLast_asShown]
  split_ifs with hwhole hlast
  · rfl
  · obtain ⟨front, hfront⟩ := List.getLast?_eq_some_iff.mp hlast
    obtain rfl : p = ⟨front ++ slash :: []⟩ := congrArg Path.mk hfront
    have hnone : (asShown ⟨[]⟩).bytes = [] := rfl
    refine congrArg Path.mk (?_ : (asShown ⟨front ++ [slash] ++ q.bytes⟩).bytes = _)
    rw [List.append_assoc, List.singleton_append, bytes_asShown_slash, bytes_asShown_slash, hnone,
      List.append_assoc, List.singleton_append]
  · exact congrArg Path.mk (bytes_asShown_slash p.bytes q.bytes)

/-- A difference between a path and what it is shown as is still there after the same path is joined
to both. -/
theorem asShown_join_eq_iff (hq : q.isAbsolute = false) :
    p.asShown.join q = p.join q ↔ p.asShown = p := by
  refine ⟨fun h => ?_, fun h => by rw [h]⟩
  have hempty := asShown_isEmpty p
  have hlast := getLast_asShown p
  simp only [join, hq, hempty, beq_iff_eq, hlast, Bool.false_or] at h
  split_ifs at h with hnone hslash
  · rw [hnone, List.isEmpty_iff] at hempty
    exact congrArg Path.mk (hempty.trans (List.isEmpty_iff.mp hnone).symm)
  · exact congrArg Path.mk (List.append_cancel_right (Path.mk.inj h))
  · exact congrArg Path.mk (List.append_cancel_right (Path.mk.inj h))

theorem ofString_display_entry (name : String) :
    Bytes.ofString (p.join (ofString name)).display =
      ((ofString p.display).join (ofString name)).bytes := by
  rw [← bytes_asShown, asShown_join, asShown_ofString]
  rfl

theorem entry_display_eq_iff {name : String} (hname : (ofString name).isAbsolute = false) :
    Bytes.ofString (p.join (ofString name)).display = (p.join (ofString name)).bytes ↔
      ∃ text, Bytes.ofString text = p.bytes := by
  rw [ofString_display_eq_iff, asShown_join, asShown_ofString, asShown_join_eq_iff _ _ hname,
    asShown_eq_iff]

theorem slash_mem_join (hp : p.bytes ≠ []) (hq : q.isAbsolute = false) :
    slash ∈ (p.join q).bytes := by
  rcases join_relative p q hq with ⟨hnone, -⟩ | ⟨front, -, hjoin⟩ | ⟨-, hjoin⟩
  · exact absurd hnone hp
  · simp [hjoin]
  · simp [hjoin]

end Join

end Proctor.Path
