import Proctor.Expected

/-!
# Annotations line by line

The search for marks runs over a whole text. It finds on each line that has a mark what follows the
first one there, and nothing else: no mark reaches over the end of a line, and the search goes on
exactly where the line ended. The reading by lines is written for lists of any kind, so that it can
be taken of a text and of the bytes that the text was read from.
-/

set_option autoImplicit false

namespace Proctor.Expected

section Lines

variable {α : Type} [DecidableEq α]

/-- What follows the first `x` with `y` right behind it. -/
def after? (x y : α) : List α → Option (List α)
  | [] => none
  | a :: rest => if a = x ∧ rest.head? = some y then some rest.tail else after? x y rest

theorem after?_append {x : α} (y : α) {s : List α} (rest : List α) (h : x ∉ s) :
    after? x y (s ++ rest) = after? x y rest := by
  induction s with
  | nil => rfl
  | cons a s ih =>
    rw [List.mem_cons, not_or] at h
    rw [List.cons_append, after?, if_neg (fun hmark => h.1 hmark.1.symm), ih h.2]

def marked (newline x y : α) (s : List α) : List (List α) :=
  (s.splitOn newline).filterMap (after? x y)

/-- A text is a last line, or a line with its end and a text behind it. -/
theorem line_induction {P : List α → Prop} (newline : α)
    (last : ∀ line, newline ∉ line → P line)
    (more : ∀ line rest, newline ∉ line → P rest → P (line ++ newline :: rest))
    (s : List α) : P s := by
  induction hn : s.length using Nat.strongRecOn generalizing s with
  | ind n ih =>
    by_cases hs : newline ∈ s
    · obtain ⟨line, rest, rfl, hline⟩ := List.eq_append_cons_of_mem hs
      refine more line rest hline (ih rest.length ?_ rest rfl)
      simp only [← hn, List.length_append, List.length_cons]
      omega
    · exact last s hs

theorem marked_last {newline : α} (x y : α) {line : List α} (h : newline ∉ line) :
    marked newline x y line = (after? x y line).toList := by
  rw [marked, List.splitOn_eq_singleton h]
  cases hmark : after? x y line <;> simp [hmark]

theorem marked_more {newline : α} (x y : α) {line : List α} (rest : List α) (h : newline ∉ line) :
    marked newline x y (line ++ newline :: rest) =
      (after? x y line).toList ++ marked newline x y rest := by
  rw [marked, List.splitOn_append_cons_self_of_not_mem h]
  cases hmark : after? x y line <;> simp [hmark, marked]

end Lines

theorem scan_cons (c : Char) (s : List Char) :
    scan (c :: s) =
      if c = '#' ∧ s.head? = some ' ' then
        s.tail.takeWhile inLine :: scan (s.tail.dropWhile inLine)
      else scan s := by
  by_cases hmark : c = '#' ∧ s.head? = some ' '
  · rw [if_pos hmark]
    obtain ⟨rfl, hs⟩ := hmark
    obtain ⟨rest, rfl⟩ := List.head?_eq_some_iff.mp hs
    rw [scan, List.tail_cons]
  · rw [if_neg hmark, scan]
    rintro rest rfl rfl
    exact hmark ⟨rfl, rfl⟩

theorem scan_line (line rest : List Char) (hline : '\n' ∉ line)
    (hrest : ∀ c, rest.head? = some c → c = '\n') :
    scan (line ++ rest) = (after? '#' ' ' line).toList ++ scan rest := by
  induction line with
  | nil => rfl
  | cons c line ih =>
    have htail : '\n' ∉ line := fun h => hline (List.mem_cons_of_mem c h)
    have hhead : (line ++ rest).head? = some ' ' ↔ line.head? = some ' ' := by
      cases line with
      | nil =>
        simp only [List.nil_append, List.head?_nil, reduceCtorEq, iff_false]
        intro h
        exact absurd (hrest ' ' h) (by decide)
      | cons a line => simp
    rw [List.cons_append, scan_cons, after?]
    by_cases hmark : c = '#' ∧ line.head? = some ' '
    · rw [if_pos hmark, if_pos (by rwa [hhead])]
      obtain ⟨text, rfl⟩ := List.head?_eq_some_iff.mp hmark.2
      have htext : ∀ a ∈ text, inLine a := by
        intro a ha
        have hne : a ≠ '\n' := fun h => htail (h ▸ List.mem_cons_of_mem ' ' ha)
        simpa [inLine] using hne
      have hstop : rest.takeWhile inLine = [] ∧ rest.dropWhile inLine = rest := by
        cases rest with
        | nil => exact ⟨rfl, rfl⟩
        | cons a rest =>
          obtain rfl := hrest a rfl
          exact ⟨rfl, rfl⟩
      rw [List.cons_append, List.tail_cons, List.tail_cons, List.takeWhile_append_of_pos htext,
        List.dropWhile_append_of_pos htext, hstop.1, hstop.2, List.append_nil]
      rfl
    · rw [if_neg hmark, if_neg (by rwa [hhead]), ih htail]

/-- The search of the whole text finds what stands behind the first mark of each line. -/
theorem scan_eq_marked (s : List Char) : scan s = marked '\n' '#' ' ' s := by
  induction s using line_induction '\n' with
  | last line hline =>
    rw [marked_last _ _ hline]
    simpa [scan] using scan_line line [] hline (by simp)
  | more line rest hline ih =>
    rw [marked_more _ _ _ hline, ← ih, scan_line line _ hline (by simp), scan_cons,
      if_neg (by simp)]

end Proctor.Expected
