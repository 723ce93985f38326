import Proctor.Proofs.Expected.Annotations

/-!
# Writing expectations down

What a text is expected to print is what its parts are, wherever it is cut at the end of a line. So
a program can be given its own output: each line of code gets the mark and one line of the output
behind it, and the search finds just this output again. The code may end with half a mark and the
output may be full of marks; only the code before the mark has to be free of them.
-/

set_option autoImplicit false

namespace Proctor.Expected

theorem scan_append (a b : List Char) : scan (a ++ '\n' :: b) = scan a ++ scan b := by
  simp only [scan_eq_marked, marked]
  rw [List.splitOn_append_cons_self, List.filterMap_append]

theorem output_append (texts texts' : List (List Char)) :
    output (texts ++ texts') = output texts ++ output texts' :=
  List.flatMap_append

structure IsCode (code : List Char) : Prop where
  flat : '\n' ∉ code
  unmarked : ¬ ['#', ' '] <:+: code

theorem scan_code {code : List Char} (h : IsCode code) : scan code = [] := by
  have hnone : after? '#' ' ' code = none := by
    rw [← Option.not_isSome_iff_eq_none, after?_isSome_iff]
    exact h.unmarked
  rw [scan_eq_marked, marked_last _ _ h.flat, hnone]
  rfl

/-- The mark behind the code is the first one, even if the code ends with `#`. -/
theorem scan_annotated {code text : List Char} (h : IsCode code) (htext : '\n' ∉ text) :
    scan (code ++ '#' :: ' ' :: text) = [text] := by
  have hflat : '\n' ∉ code ++ '#' :: ' ' :: text := by simp [h.flat, htext]
  have hsome : after? '#' ' ' (code ++ '#' :: ' ' :: text) = some text :=
    (after?_eq_some_iff (by decide)).mpr ⟨code, rfl, h.unmarked⟩
  rw [scan_eq_marked, marked_last _ _ hflat, hsome]
  rfl

structure Line where
  code : List Char
  text : Option (List Char)

namespace Line

def chars (l : Line) : List Char :=
  l.code ++ l.text.elim [] ('#' :: ' ' :: ·) ++ ['\n']

structure Proper (l : Line) : Prop where
  isCode : IsCode l.code
  flat : ∀ text ∈ l.text, '\n' ∉ text

theorem scan_chars {l : Line} (h : l.Proper) (rest : List Char) :
    scan (l.chars ++ rest) = l.text.toList ++ scan rest := by
  obtain ⟨code, text⟩ := l
  rw [chars, List.append_assoc, List.singleton_append, scan_append]
  cases text with
  | none =>
    rw [Option.elim_none, List.append_nil, scan_code h.isCode]
    rfl
  | some text =>
    rw [Option.elim_some, scan_annotated h.isCode (h.flat text rfl)]
    rfl

end Line

theorem scan_lines (lines : List Line) (h : ∀ l ∈ lines, l.Proper) :
    scan (lines.flatMap Line.chars) = lines.filterMap Line.text := by
  induction lines with
  | nil => simp [scan]
  | cons l lines ih =>
    have hl := Line.scan_chars (h l List.mem_cons_self) (lines.flatMap Line.chars)
    have hlines := ih fun l' hl' => h l' (List.mem_cons_of_mem l hl')
    rw [List.flatMap_cons, hl, hlines]
    cases htext : l.text <;> simp [htext]

/-- The lines of a program, each with a line of output. Code for which nothing is left stays as it
is, and output for which no code is left gets lines of its own. -/
def annotate : List (List Char) → List (List Char) → List Line
  | [], texts => texts.map fun text => ⟨[], some text⟩
  | code, [] => code.map fun c => ⟨c, none⟩
  | c :: code, text :: texts => ⟨c, some text⟩ :: annotate code texts

theorem text_annotate (code texts : List (List Char)) :
    (annotate code texts).filterMap Line.text = texts := by
  fun_induction annotate code texts with
  | case1 texts => simp [List.filterMap_map]
  | case2 code => simp [List.filterMap_map]
  | case3 c code text texts ih => simp [ih]

theorem proper_annotate (code texts : List (List Char)) (hcode : ∀ c ∈ code, IsCode c)
    (htexts : ∀ text ∈ texts, '\n' ∉ text) : ∀ l ∈ annotate code texts, l.Proper := by
  have hempty : IsCode [] := ⟨by simp, by simp⟩
  fun_induction annotate code texts with
  | case1 texts =>
    rw [List.forall_mem_map]
    exact fun text ht => ⟨hempty, by simpa using htexts text ht⟩
  | case2 code =>
    rw [List.forall_mem_map]
    exact fun c hc => ⟨hcode c hc, by simp⟩
  | case3 c code text texts ih =>
    rw [List.forall_mem_cons] at hcode htexts ⊢
    exact ⟨⟨hcode.1, by simpa using htexts.1⟩, ih hcode.2 htexts.2⟩

def linesOf (s : List Char) : List (List Char) := (s.splitOn '\n').dropLast

theorem output_splitOn (s : List Char) : output (s.splitOn '\n') = s ++ ['\n'] := by
  induction s using line_induction '\n' with
  | last line hline => simp [List.splitOn_eq_singleton hline, output]
  | more line rest hline ih =>
    rw [List.splitOn_append_cons_self_of_not_mem hline, output, List.flatMap_cons, ← output, ih]
    simp

def IsOutput (s : List Char) : Prop := s = [] ∨ ∃ u, s = u ++ ['\n']

theorem isOutput_output (texts : List (List Char)) : IsOutput (output texts) := by
  rcases List.eq_nil_or_concat texts with rfl | ⟨texts, text, rfl⟩
  · exact .inl rfl
  · refine .inr ⟨output texts ++ text, ?_⟩
    simp [output]

theorem output_linesOf {s : List Char} (h : IsOutput s) : output (linesOf s) = s := by
  rcases h with rfl | ⟨u, rfl⟩
  · rfl
  · rw [linesOf, List.splitOn_append_cons_self, List.splitOn_nil, List.dropLast_concat,
      output_splitOn]

theorem newline_notMem_linesOf (s : List Char) : ∀ text ∈ linesOf s, '\n' ∉ text :=
  fun _ htext => newline_notMem_of_mem_splitOn (List.mem_of_mem_dropLast htext)

theorem output_scan_annotate (code : List (List Char)) (hcode : ∀ c ∈ code, IsCode c)
    {printed : List Char} (hprinted : IsOutput printed) :
    output (scan ((annotate code (linesOf printed)).flatMap Line.chars)) = printed := by
  have hproper := proper_annotate code _ hcode (newline_notMem_linesOf printed)
  rw [scan_lines _ hproper, text_annotate, output_linesOf hprinted]

def withOutput (code : List String) (printed : String) : String :=
  String.ofList ((annotate (code.map String.toList) (linesOf printed.toList)).flatMap Line.chars)

theorem isOutput_toList_iff (t : String) : IsOutput t.toList ↔ t = "" ∨ ∃ u, t = u ++ "\n" := by
  refine or_congr String.toList_eq_nil_iff ⟨?_, ?_⟩
  · rintro ⟨u, hu⟩
    exact ⟨String.ofList u, String.toList_inj.mp (by simp [hu])⟩
  · rintro ⟨u, rfl⟩
    exact ⟨u.toList, String.toList_append⟩

theorem expectedOutput_withOutput (code : List String) (hcode : ∀ c ∈ code, IsCode c.toList)
    {t : String} (ht : IsOutput t.toList) : expectedOutput (withOutput code t) = t := by
  have hlines : ∀ c ∈ code.map String.toList, IsCode c := List.forall_mem_map.mpr hcode
  rw [expectedOutput, withOutput, String.toList_ofList, output_scan_annotate _ hlines ht,
    String.ofList_toList]

theorem expectedOutput_pairs (lines : List (String × String))
    (h : ∀ l ∈ lines, IsCode l.1.toList ∧ '\n' ∉ l.2.toList) :
    expectedOutput (String.join (lines.map fun l => l.1 ++ "# " ++ l.2 ++ "\n")) =
      String.join (lines.map fun l => l.2 ++ "\n") := by
  let annotated : List Line := lines.map fun l => ⟨l.1.toList, some l.2.toList⟩
  have hsource : (String.join (lines.map fun l => l.1 ++ "# " ++ l.2 ++ "\n")).toList =
      annotated.flatMap Line.chars := by
    simp [annotated, List.flatMap_map, Line.chars]
  have hproper : ∀ l ∈ annotated, l.Proper :=
    List.forall_mem_map.mpr fun l hl => ⟨(h l hl).1, by simpa using (h l hl).2⟩
  rw [expectedOutput, hsource, scan_lines _ hproper, ofList_output]
  simp [annotated, List.filterMap_map, Function.comp_def]

/-- The expected output of two texts with the end of a line between them is that of the first and
then that of the second. Just the texts that are empty or end with the end of a line can be
expected. If each line of a program gets a mark and a text behind it, then exactly these texts are
expected; so a program with its own output written behind its lines is expected to print this
output, no matter whether it has as many lines. -/
theorem expectations_written_down :
    (∀ a b, expectedOutput (a ++ "\n" ++ b) = expectedOutput a ++ expectedOutput b) ∧
    (∀ t, (∃ source, expectedOutput source = t) ↔ t = "" ∨ ∃ u, t = u ++ "\n") ∧
    (∀ lines : List (String × String),
      (∀ l ∈ lines, IsCode l.1.toList ∧ '\n' ∉ l.2.toList) →
        expectedOutput (String.join (lines.map fun l => l.1 ++ "# " ++ l.2 ++ "\n")) =
          String.join (lines.map fun l => l.2 ++ "\n")) ∧
    (∀ code t, (∀ c ∈ code, IsCode c.toList) → (t = "" ∨ ∃ u, t = u ++ "\n") →
      expectedOutput (withOutput code t) = t) := by
  refine ⟨?parts, ?image, expectedOutput_pairs, ?program⟩
  case parts =>
    intro a b
    rw [expectedOutput, String.toList_append, String.toList_append, List.append_assoc]
    rw [show "\n".toList ++ b.toList = '\n' :: b.toList from rfl, scan_append, output_append,
      String.ofList_append]
    rfl
  case image =>
    intro t
    rw [← isOutput_toList_iff]
    constructor
    · rintro ⟨source, rfl⟩
      rw [expectedOutput, String.toList_ofList]
      exact isOutput_output _
    · intro ht
      exact ⟨withOutput [] t, expectedOutput_withOutput [] (by simp) ht⟩
  case program =>
    intro code t hcode ht
    exact expectedOutput_withOutput code hcode ((isOutput_toList_iff t).mpr ht)

theorem code_ending_in_half_mark :
    expectedOutput "if x: ## a # b\n## \n" = "a # b\n\n" := by
  have hcode : ∀ l ∈ [("if x: #", "a # b"), ("#", "")],
      IsCode l.1.toList ∧ '\n' ∉ l.2.toList := by
    rw [List.forall_mem_cons, List.forall_mem_singleton]
    exact ⟨⟨⟨by decide, by decide⟩, by decide⟩, ⟨by decide, by decide⟩, by decide⟩
  have hlines := expectations_written_down.2.2.1 _ hcode
  simpa using hlines

end Proctor.Expected
