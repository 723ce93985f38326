import Mathlib.Data.List.Forall2
import Mathlib.Data.List.Infix
import Proctor.Proofs.Expected.Lines

/-!
# What the annotations of a text are

The reading by lines, said without any search: the lines that have a mark are kept, and the
annotation of such a line is what stands behind a mark with no mark before it. A line cannot be cut
in two ways like that, so this tells the annotations completely, and with them the expected output.
-/

set_option autoImplicit false

namespace Proctor.Expected

section Marks

variable {α : Type} {x y : α}

theorem mark_prefix_iff {a : α} {rest : List α} :
    [x, y] <+: a :: rest ↔ a = x ∧ rest.head? = some y := by
  cases rest <;> simp [List.cons_prefix_cons, eq_comm]

theorem before_mark_nil (hxy : x ≠ y) {before text rest : List α}
    (h : before ++ x :: y :: text = x :: y :: rest) (hfirst : ¬ [x, y] <:+: before) :
    before = [] := by
  match before with
  | [] => rfl
  | [b] => exact absurd (List.cons.inj (List.cons.inj h).2).1 hxy
  | b :: c :: before =>
    obtain ⟨rfl, h⟩ := List.cons.inj h
    obtain ⟨rfl, -⟩ := List.cons.inj h
    exact absurd ⟨[], before, rfl⟩ hfirst

variable [DecidableEq α]

theorem after?_eq_some_iff (hxy : x ≠ y) {line text : List α} :
    after? x y line = some text ↔
      ∃ before, line = before ++ x :: y :: text ∧ ¬ [x, y] <:+: before := by
  induction line with
  | nil => simp [after?]
  | cons a rest ih =>
    rw [after?]
    by_cases hmark : a = x ∧ rest.head? = some y
    · rw [if_pos hmark]
      obtain ⟨rfl, hhead⟩ := hmark
      obtain ⟨rest, rfl⟩ := List.head?_eq_some_iff.mp hhead
      rw [List.tail_cons, Option.some.injEq]
      constructor
      · rintro rfl
        exact ⟨[], rfl, by simp⟩
      · rintro ⟨before, hline, hfirst⟩
        obtain rfl := before_mark_nil hxy hline.symm hfirst
        simpa using hline
    · rw [if_neg hmark, ih]
      constructor
      · rintro ⟨before, rfl, hfirst⟩
        refine ⟨a :: before, rfl, fun h => ?_⟩
        rcases List.infix_cons_iff.mp h with hprefix | hinfix
        · -- A mark that begins with the new character would have been found here.
          obtain ⟨rfl, hhead⟩ := mark_prefix_iff.mp hprefix
          exact hmark ⟨rfl, by rw [List.head?_append, hhead, Option.some_or]⟩
        · exact hfirst hinfix
      · rintro ⟨before, hline, hfirst⟩
        cases before with
        | nil =>
          obtain ⟨rfl, rfl⟩ := List.cons.inj hline
          exact absurd ⟨rfl, rfl⟩ hmark
        | cons b before =>
          exact ⟨before, (List.cons.inj hline).2, fun h => hfirst (List.infix_cons h)⟩

theorem after?_isSome_iff {line : List α} : (after? x y line).isSome = true ↔ [x, y] <:+: line := by
  induction line with
  | nil => simp [after?]
  | cons a rest ih =>
    rw [after?, List.infix_cons_iff, mark_prefix_iff]
    by_cases hmark : a = x ∧ rest.head? = some y
    · simp [hmark]
    · rw [if_neg hmark, ih, or_iff_right hmark]

end Marks

/-- What a partial function gives on a list, told one by one of the members on which it is
defined. -/
theorem forall₂_filter_iff {α β : Type} {R : α → β → Prop} {f : α → Option β}
    (hf : ∀ a b, f a = some b ↔ R a b) (as : List α) (bs : List β) :
    List.Forall₂ R (as.filter fun a => (f a).isSome) bs ↔ bs = as.filterMap f := by
  induction as generalizing bs with
  | nil => simp
  | cons a as ih =>
    rcases ha : f a with _ | b
    · simp [ha, ih]
    · have hR (c : β) : R a c ↔ c = b := by rw [← hf, ha, Option.some.injEq, eq_comm]
      simp [ha, List.forall₂_cons_left_iff, hR, ih]

theorem count_newline_output (texts : List (List Char)) (h : ∀ text ∈ texts, '\n' ∉ text) :
    (output texts).count '\n' = texts.length := by
  induction texts with
  | nil => rfl
  | cons text texts ih =>
    have htext : text.count '\n' = 0 := List.count_eq_zero.mpr (h text List.mem_cons_self)
    have hrest := ih fun t ht => h t (List.mem_cons_of_mem _ ht)
    rw [output, List.flatMap_cons, List.count_append, ← output, hrest, List.count_append, htext,
      List.length_cons, List.count_singleton_self, Nat.zero_add, Nat.add_comm]

theorem ofList_output (texts : List (List Char)) :
    String.ofList (output texts) = String.join ((texts.map String.ofList).map (· ++ "\n")) := by
  induction texts with
  | nil => rfl
  | cons text texts ih =>
    rw [output, List.flatMap_cons, String.ofList_append, ← output, ih, String.ofList_append]
    simp

/-- The annotation of a line: what stands behind its first mark. -/
def AnnotationOf (line : List Char) (text : String) : Prop :=
  ∃ before, line = before ++ '#' :: ' ' :: text.toList ∧ ¬ ['#', ' '] <:+: before

theorem annotationOf_iff (line : List Char) (text : String) :
    (after? '#' ' ' line).map String.ofList = some text ↔ AnnotationOf line text := by
  rw [AnnotationOf, ← after?_eq_some_iff (by decide), Option.map_eq_some_iff]
  constructor
  · rintro ⟨text, hafter, rfl⟩
    rwa [String.toList_ofList]
  · intro hafter
    exact ⟨text.toList, hafter, String.ofList_toList⟩

theorem annotations_eq_filterMap (source : String) :
    annotations source = (source.toList.splitOn '\n').filterMap fun line =>
      (after? '#' ' ' line).map String.ofList := by
  rw [annotations, scan_eq_marked, marked, List.map_filterMap]

theorem newline_notMem_of_mem_splitOn {line s : List Char} (h : line ∈ s.splitOn '\n') :
    '\n' ∉ line := by
  induction s using line_induction '\n' with
  | last last hlast =>
    rw [List.splitOn_eq_singleton hlast, List.mem_singleton] at h
    rwa [h]
  | more first rest hfirst ih =>
    rw [List.splitOn_append_cons_self_of_not_mem hfirst, List.mem_cons] at h
    rcases h with rfl | h
    · exact hfirst
    · exact ih h

theorem newline_notMem_scan {text s : List Char} (h : text ∈ scan s) : '\n' ∉ text := by
  rw [scan_eq_marked, marked, List.mem_filterMap] at h
  obtain ⟨line, hline, hafter⟩ := h
  obtain ⟨before, rfl, -⟩ := (after?_eq_some_iff (by decide)).mp hafter
  exact fun hmem => newline_notMem_of_mem_splitOn hline (by simp [hmem])

/-- The annotations of a source are those of its lines that have a mark, in order: there is no other
list of texts of which each is what stands behind the first mark of its line. The expected output
has them as lines, so it has as many line ends as there are lines with a mark. -/
theorem annotations_line_by_line (source : String) :
    let lines := source.toList.splitOn '\n'
    let annotated := lines.filter fun line => ['#', ' '] <:+: line
    (∀ texts, List.Forall₂ AnnotationOf annotated texts ↔ texts = annotations source) ∧
    expectedOutput source = String.join ((annotations source).map (· ++ "\n")) ∧
    (expectedOutput source).toList.count '\n' = annotated.length := by
  intro lines annotated
  have hannotated : annotated =
      lines.filter fun line => ((after? '#' ' ' line).map String.ofList).isSome := by
    refine List.filter_congr fun line _ => ?_
    rw [Option.isSome_map, Bool.eq_iff_iff, after?_isSome_iff, decide_eq_true_iff]
  have hread (texts : List String) :
      List.Forall₂ AnnotationOf annotated texts ↔ texts = annotations source := by
    rw [hannotated, annotations_eq_filterMap]
    exact forall₂_filter_iff annotationOf_iff lines texts
  refine ⟨hread, ?_, ?_⟩
  · exact ofList_output _
  · rw [((hread _).mpr rfl).length_eq, annotations, List.length_map, expectedOutput,
      String.toList_ofList]
    exact count_newline_output _ fun text htext => newline_notMem_scan htext

end Proctor.Expected
