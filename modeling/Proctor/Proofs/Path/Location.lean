import Proctor.Path

/-!
# Where a path leads

Where there are no symbolic links, a path leads from the root, or from the directory it is read in,
to the place that its pieces spell out: `.` stays, `..` goes one directory up, and the root is above
itself. Joining paths follows one after the other.
-/

set_option autoImplicit false

namespace Proctor

theorem Bytes.split_eq_splitOn (separator : UInt8) (bytes : Bytes) :
    bytes.split separator = bytes.splitOn separator := by
  induction bytes with
  | nil => rfl
  | cons b rest ih =>
    rw [Bytes.split, List.splitOn_cons_eq_if_modifyHead, ih]
    by_cases hb : b = separator
    · simp [hb]
    · obtain ⟨piece, pieces, h⟩ := List.exists_cons_of_ne_nil (List.splitOn_ne_nil separator rest)
      simp [hb, h]

namespace Path

abbrev Location := List Bytes

def advance (here : Location) (piece : Bytes) : Location :=
  if piece = [] ∨ piece = [dot] then here
  else if piece = [dot, dot] then here.dropLast
  else here ++ [piece]

/-- Where a path leads when it is read in the directory `here`. -/
def locate (here : Location) (p : Path) : Location :=
  p.pieces.foldl advance (if p.isAbsolute then [] else here)

theorem pieces_append (a b : Bytes) :
    pieces ⟨a ++ slash :: b⟩ = pieces ⟨a⟩ ++ pieces ⟨b⟩ := by
  simp only [pieces, Bytes.split_eq_splitOn]
  exact List.splitOn_append_cons_self a b

theorem locate_relative (here : Location) {q : Path} (h : q.isAbsolute = false) :
    locate here q = q.pieces.foldl advance here := by
  rw [locate, if_neg (by simp [h])]

theorem isAbsolute_append {a : Bytes} (b : Bytes) (h : a ≠ []) :
    isAbsolute ⟨a ++ b⟩ = isAbsolute ⟨a⟩ := by
  obtain ⟨x, a, rfl⟩ := List.exists_cons_of_ne_nil h
  rfl

theorem join_relative (p q : Path) (h : q.isAbsolute = false) :
    (p.bytes = [] ∧ p.join q = q) ∨
    (∃ front, p.bytes = front ++ [slash] ∧ p.join q = ⟨front ++ slash :: q.bytes⟩) ∨
    (p.bytes ≠ [] ∧ p.join q = ⟨p.bytes ++ slash :: q.bytes⟩) := by
  by_cases hempty : p.bytes = []
  · exact .inl ⟨hempty, by simp [join, hempty]⟩
  · by_cases hlast : p.bytes.getLast? = some slash
    · obtain ⟨front, hfront⟩ := List.getLast?_eq_some_iff.mp hlast
      exact .inr (.inl ⟨front, hfront, by simp [join, h, hfront]⟩)
    · exact .inr (.inr ⟨hempty, by simp [join, h, hempty, hlast]⟩)

/-- A joined path leads where its second part leads from where its first part does. -/
theorem locate_join (here : Location) (p q : Path) (h : q.isAbsolute = false) :
    locate here (p.join q) = locate (locate here p) q := by
  obtain ⟨a⟩ := p
  rw [locate_relative _ h]
  rcases join_relative ⟨a⟩ q h with ⟨rfl, hjoin⟩ | ⟨front, rfl, hjoin⟩ | ⟨hne, hjoin⟩
  · rw [hjoin, locate_relative _ h]
    rfl
  · have habsolute := isAbsolute_append q.bytes (List.append_ne_nil_of_right_ne_nil front
      (List.cons_ne_nil slash []))
    rw [List.append_assoc, List.singleton_append] at habsolute
    rw [hjoin, locate, locate, habsolute, pieces_append, pieces_append front [],
      List.foldl_append, List.foldl_append]
    rfl
  · rw [hjoin, locate, locate, isAbsolute_append _ hne, pieces_append, List.foldl_append]

structure Plain (name : Bytes) : Prop where
  flat : slash ∉ name
  ne_nil : name ≠ []
  ne_current : name ≠ [dot]
  ne_parent : name ≠ [dot, dot]

theorem plain_of_last {name : Bytes} {b : UInt8} (hflat : slash ∉ name)
    (hlast : name.getLast? = some b) (hb : b ≠ dot) : Plain name := by
  refine ⟨hflat, ?_, ?_, ?_⟩
  · rintro rfl
    simp at hlast
  · rintro rfl
    exact hb (Option.some.inj hlast).symm
  · rintro rfl
    exact hb (Option.some.inj hlast).symm

theorem isAbsolute_plain {name : Bytes} (h : Plain name) : isAbsolute ⟨name⟩ = false := by
  obtain ⟨b, name, rfl⟩ := List.exists_cons_of_ne_nil h.ne_nil
  have hb : slash ≠ b := fun hb => h.flat (hb ▸ List.mem_cons_self)
  simpa [isAbsolute] using hb.symm

theorem locate_plain (here : Location) {name : Bytes} (h : Plain name) :
    locate here ⟨name⟩ = here ++ [name] := by
  rw [locate_relative _ (isAbsolute_plain h), pieces, Bytes.split_eq_splitOn,
    List.splitOn_eq_singleton h.flat, List.foldl_cons, List.foldl_nil, advance,
    if_neg (not_or.mpr ⟨h.ne_nil, h.ne_current⟩), if_neg h.ne_parent]

theorem locate_entry (here : Location) (p : Path) {name : Bytes} (h : Plain name) :
    locate here (p.join ⟨name⟩) = locate here p ++ [name] := by
  rw [locate_join here p _ (isAbsolute_plain h), locate_plain _ h]

end Path

end Proctor
