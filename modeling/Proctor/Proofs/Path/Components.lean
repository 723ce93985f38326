import Proctor.Proofs.Path.Location

/-!
# Components of a path

A path is read from its start as a list of components, or from its end up to the first that it has
there, and both readings give the same last component. An entry joined to a path adds one component
to it. The pieces that count, which are all but the empty ones and `.`, tell the components up to
the root or a `.` in front, and they alone say where a path leads.
-/

set_option autoImplicit false

namespace Proctor.Path

def reading (p : Path) (bytes : Bytes) : List Component :=
  match bytes.split slash with
  | [] => []
  | piece :: rest => (p.firstComponent? piece).toList ++ rest.filterMap component?

theorem components_eq_reading (p : Path) : p.components = p.reading p.bytes := rfl

theorem reading_flat (p : Path) {piece : Bytes} (h : slash ∉ piece) :
    p.reading piece = (p.firstComponent? piece).toList := by
  rw [reading, Bytes.split_eq_splitOn, List.splitOn_eq_singleton h]
  simp

theorem reading_slash (p : Path) (a b : Bytes) :
    p.reading (a ++ slash :: b) = p.reading a ++ (pieces ⟨b⟩).filterMap component? := by
  have hsplit : (a ++ slash :: b).split slash = a.split slash ++ b.split slash := pieces_append a b
  have ha : a.split slash ≠ [] := by
    rw [Bytes.split_eq_splitOn]
    exact List.splitOn_ne_nil slash a
  obtain ⟨piece, rest, hpieces⟩ := List.exists_cons_of_ne_nil ha
  simp [reading, hsplit, hpieces, pieces]

theorem filterMap_pieces_flat {piece : Bytes} (h : slash ∉ piece) :
    (pieces ⟨piece⟩).filterMap component? = (component? piece).toList := by
  rw [pieces, Bytes.split_eq_splitOn, List.splitOn_eq_singleton h]
  cases hc : component? piece <;> simp [hc]

theorem reading_congr {p q : Path} (h : p.isAbsolute = q.isAbsolute) (bytes : Bytes) :
    p.reading bytes = q.reading bytes := by
  simp only [reading, firstComponent?, h]

section Entry

variable {name : Bytes}

theorem component?_plain (h : Plain name) : component? name = some (.name name) := by
  rw [component?, if_neg (not_or.mpr ⟨h.ne_nil, h.ne_current⟩), if_neg h.ne_parent]

theorem components_entry (p : Path) (h : Plain name) :
    (p.join ⟨name⟩).components = p.components ++ [.name name] := by
  have hrelative := isAbsolute_plain h
  have hlast : (pieces ⟨name⟩).filterMap component? = [.name name] := by
    rw [filterMap_pieces_flat h.flat, component?_plain h, Option.toList_some]
  rw [components_eq_reading, components_eq_reading]
  rcases join_relative p ⟨name⟩ hrelative with
    ⟨hp, hjoin⟩ | ⟨front, hp, hjoin⟩ | ⟨hp, hjoin⟩
  · have hfirst : firstComponent? ⟨name⟩ name = some (.name name) := by
      rw [firstComponent?, if_neg (by simp [hrelative]), if_neg h.ne_current, component?_plain h]
    have hnone : p.reading [] = [] := by
      simp [reading, Bytes.split, firstComponent?, isAbsolute, hp, component?]
    rw [hjoin, hp, hnone, reading_flat _ h.flat, hfirst]
    rfl
  · have habsolute : isAbsolute ⟨front ++ slash :: name⟩ = p.isAbsolute := by
      cases front <;> simp [isAbsolute, hp]
    have hend : (pieces ⟨[]⟩).filterMap component? = [] := rfl
    rw [hjoin, hp, reading_slash, reading_slash, hlast, hend, List.append_nil,
      reading_congr habsolute]
  · rw [hjoin, reading_slash, hlast, reading_congr (isAbsolute_append _ hp)]

end Entry

theorem readBack_eq (p : Path) (before : Bytes) {piece : Bytes} (h : slash ∉ piece) :
    lastComponent?.readBack p piece before = (p.reading (before.reverse ++ piece)).getLast? := by
  induction before generalizing piece with
  | nil =>
    rw [lastComponent?.readBack, List.reverse_nil, List.nil_append, reading_flat p h]
    cases p.firstComponent? piece <;> rfl
  | cons b before ih =>
    rw [lastComponent?.readBack, List.reverse_cons, List.append_assoc, List.singleton_append]
    by_cases hb : b = slash
    · rw [if_pos hb, hb, reading_slash, filterMap_pieces_flat h]
      cases component? piece with
      | none => simpa using ih List.not_mem_nil
      | some last => simp
    · rw [if_neg hb]
      exact ih (by simp [h, Ne.symm hb])

/-- A path has the same last component from both ends. -/
theorem lastComponent?_eq (p : Path) : p.lastComponent? = p.components.getLast? := by
  have hnothing : slash ∉ ([] : Bytes) := List.not_mem_nil
  have hback := readBack_eq p p.bytes.reverse hnothing
  rwa [List.reverse_reverse, List.append_nil] at hback

def steps (p : Path) : List Bytes :=
  (p.bytes.splitOn slash).filter fun piece => ¬ (piece = [] ∨ piece = [dot])

def component (piece : Bytes) : Component :=
  if piece = [dot, dot] then .parent else .name piece

theorem filterMap_component? (pieces : List Bytes) :
    pieces.filterMap component? =
      (pieces.filter fun piece => ¬ (piece = [] ∨ piece = [dot])).map component := by
  rw [← List.filterMap_eq_map, List.filterMap_filter]
  congr 1
  funext piece
  by_cases hidle : piece = [] ∨ piece = [dot]
  · rw [component?, if_pos hidle, if_neg (mt of_decide_eq_true (not_not_intro hidle))]
  · rw [component?, if_neg hidle, if_pos (decide_eq_true hidle), Function.comp, component,
      apply_ite some]

/-- In front of what the steps stand for there is at most the root or a `.`. -/
theorem components_eq_steps (p : Path) :
    ∃ front : List Component, p.components = front ++ p.steps.map component ∧
      ∀ c ∈ front, c = .root ∨ c = .current := by
  obtain ⟨first, rest, hpieces⟩ :=
    List.exists_cons_of_ne_nil (List.splitOn_ne_nil slash p.bytes)
  have hcomponents :
      p.components = (p.firstComponent? first).toList ++ rest.filterMap component? := by
    rw [components_eq_reading, reading, Bytes.split_eq_splitOn, hpieces]
  rw [hcomponents, steps, hpieces]
  by_cases habsolute : p.isAbsolute = true
  · -- An absolute path starts with an empty piece, which does not count.
    obtain ⟨tail, htail⟩ := List.head?_eq_some_iff.mp (eq_of_beq habsolute)
    obtain rfl : first = [] := by
      rw [htail, List.splitOn_cons_eq_if_modifyHead, if_pos (beq_self_eq_true slash)] at hpieces
      exact (List.cons.inj hpieces).1.symm
    refine ⟨[.root], ?_, by simp⟩
    rw [firstComponent?, if_pos habsolute, filterMap_component?, List.filter_cons_of_neg (by simp)]
    rfl
  · by_cases hcurrent : first = [dot]
    · refine ⟨[.current], ?_, by simp⟩
      rw [firstComponent?, if_neg habsolute, if_pos hcurrent, filterMap_component?,
        List.filter_cons_of_neg (by simp [hcurrent])]
      rfl
    · refine ⟨[], ?_, by simp⟩
      rw [firstComponent?, if_neg habsolute, if_neg hcurrent, List.nil_append,
        ← filterMap_component?, List.filterMap_cons]
      cases component? first <;> rfl

theorem lastComponent?_concat {p : Path} {before : List Bytes} {name : Bytes}
    (h : p.steps = before ++ [name]) : p.lastComponent? = some (component name) := by
  obtain ⟨front, hcomponents, -⟩ := p.components_eq_steps
  rw [lastComponent?_eq, hcomponents, h, List.map_append, List.map_singleton,
    ← List.append_assoc, List.getLast?_concat]

theorem lastComponent?_ne_name {p : Path} (h : p.steps = []) (name : Bytes) :
    p.lastComponent? ≠ some (.name name) := by
  obtain ⟨front, hcomponents, hfront⟩ := p.components_eq_steps
  rw [lastComponent?_eq, hcomponents, h, List.map_nil, List.append_nil]
  intro hlast
  rcases hfront _ (List.mem_of_getLast? hlast) with hroot | hcurrent
  · exact absurd hroot (by simp)
  · exact absurd hcurrent (by simp)

def origin (here : Location) (p : Path) : Location := if p.isAbsolute then [] else here

/-- The steps alone say where a path leads. -/
theorem locate_eq_steps (here : Location) (p : Path) :
    locate here p = p.steps.foldl advance (origin here p) := by
  rw [locate, pieces, Bytes.split_eq_splitOn, steps, List.foldl_filter, ← origin]
  congr 1
  funext there piece
  by_cases hidle : piece = [] ∨ piece = [dot]
  · rw [advance, if_pos hidle, if_neg (mt of_decide_eq_true (not_not_intro hidle))]
  · rw [if_pos (decide_eq_true hidle)]

theorem counts_of_mem_steps {p : Path} {piece : Bytes} (h : piece ∈ p.steps) :
    ¬ (piece = [] ∨ piece = [dot]) := by
  rw [steps, List.mem_filter] at h
  exact of_decide_eq_true h.2

theorem locate_concat (here : Location) {p : Path} {before : List Bytes} {name : Bytes}
    (h : p.steps = before ++ [name]) (hname : name ≠ [dot, dot]) :
    locate here p = before.foldl advance (origin here p) ++ [name] := by
  have hmem : name ∈ p.steps := by
    rw [h]
    exact List.mem_concat_self
  rw [locate_eq_steps, h, List.foldl_append, List.foldl_cons, List.foldl_nil, advance,
    if_neg (counts_of_mem_steps hmem), if_neg hname]

theorem foldl_advance_names (names : List Bytes)
    (h : ∀ name ∈ names, ¬ (name = [] ∨ name = [dot]) ∧ name ≠ [dot, dot]) (here : Location) :
    names.foldl advance here = here ++ names := by
  induction names generalizing here with
  | nil => exact (List.append_nil here).symm
  | cons name names ih =>
    obtain ⟨hcounts, hparent⟩ := h name List.mem_cons_self
    have hnames := ih fun n hn => h n (List.mem_cons_of_mem name hn)
    rw [List.foldl_cons, advance, if_neg hcounts, if_neg hparent, hnames, List.append_assoc,
      List.singleton_append]

theorem locate_descending (here : Location) {p : Path} (hrelative : p.isAbsolute = false)
    (hdown : [dot, dot] ∉ p.steps) : locate here p = here ++ p.steps := by
  rw [locate_eq_steps, origin, if_neg (by simp [hrelative])]
  refine foldl_advance_names p.steps (fun name hname => ⟨counts_of_mem_steps hname, ?_⟩) here
  rintro rfl
  exact hdown hname

end Proctor.Path
