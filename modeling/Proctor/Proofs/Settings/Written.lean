import Proctor.Proofs.Path.Shown
import Proctor.Proofs.Settings.Layers
import Proctor.Proofs.Toml.Lines

/-!
# Settings files

Settings are written into a file with one line for each field that is present: those of the
toolchain in a table of their own, the others at the top, and each of the two in any order. Reading
such a file gives the settings back. To show it, the settings read so far are compared with those
that were written, field by field: every entry settles its field and disturbs no other, so the order
in which entries are looked at does not matter. A key that no field has, or a key that comes twice,
makes the file unreadable, wherever it stands.
-/

set_option autoImplicit false

namespace Proctor

open Toml (Entries IsBareKey Line Literal Fits)

def FailurePolicy.variant : FailurePolicy → String
  | .runToCompletion => "run-to-completion"
  | .failFast => "fail-fast"

namespace Field

def atTop : List Field :=
  [.preconditionDir, .runtimeSource, .testDir, .scratchDir, .failurePolicy, .exitPolicy, .toolLimit,
    .programLimit]

def ofTools : List Field := [.compiler, .assembler, .linker]

def key : Field → String
  | .preconditionDir => "precondition_dir"
  | .runtimeSource => "runtime_source"
  | .testDir => "test_dir"
  | .scratchDir => "scratch_dir"
  | .failurePolicy => "failure_policy"
  | .exitPolicy => "check_exit_status"
  | .toolLimit => "tool_timeout_secs"
  | .programLimit => "exec_timeout_secs"
  | .compiler => "compiler"
  | .assembler => "assembler"
  | .linker => "linker"

def literal? : Field → Overlay → Option Literal
  | .preconditionDir, o => o.preconditionDir.map fun p => .text p.display
  | .runtimeSource, o => o.runtimeSource.map fun p => .text p.display
  | .testDir, o => o.testDir.map fun p => .text p.display
  | .scratchDir, o => o.scratchDir.map fun p => .text p.display
  | .failurePolicy, o => o.failurePolicy.map fun policy => .text policy.variant
  | .exitPolicy, o => o.checkExitStatus.map .truth
  | .toolLimit, o => o.toolSeconds.map .number
  | .programLimit, o => o.programSeconds.map .number
  | .compiler, o => o.compiler.map .texts
  | .assembler, o => o.assembler.map .text
  | .linker, o => o.linker.map .text

theorem key_bare (f : Field) : IsBareKey f.key := by
  cases f <;> decide

def line? (f : Field) (o : Overlay) : Option Line :=
  (f.literal? o).map (.ofLiteral f.key f.key_bare)

end Field

namespace Overlay

def lines (o : Overlay) (fs : List Field) : List Line := fs.filterMap fun f => f.line? o

def topLines (o : Overlay) : List Line := o.lines Field.atTop

def toolLines (o : Overlay) : List Line := o.lines Field.ofTools

/-- Settings that can be written: their paths are text, and their seconds fit in a signed word. -/
structure Writable (o : Overlay) : Prop where
  paths : ∀ p, some p ∈ [o.preconditionDir, o.runtimeSource, o.testDir, o.scratchDir] →
    ∃ s, p = .ofString s
  seconds : ∀ n, some n ∈ [o.toolSeconds, o.programSeconds] → n ≤ 9223372036854775807

end Overlay

namespace Schema

open Toml (Entries Line Literal Fits)

/-! ## Field by field -/

def Settled (o : Overlay) (f : Field) (read : Overlay) : Prop := f.onlyFile o read = read

section Settled

variable {o : Overlay}

theorem onlyFile_comm (f g : Field) (read : Overlay) :
    f.onlyFile o (g.onlyFile o read) = g.onlyFile o (f.onlyFile o read) := by
  cases f <;> cases g <;> rfl

theorem settled_onlyFile (f : Field) (read : Overlay) : Settled o f (f.onlyFile o read) := by
  cases f <;> rfl

theorem Settled.onlyFile {f : Field} {read : Overlay} (h : Settled o f read) (g : Field) :
    Settled o f (g.onlyFile o read) := by
  rw [Settled, onlyFile_comm, h]

theorem settled_of_absent {f : Field} (h : f.literal? o = none) : Settled o f {} := by
  cases f <;>
    · have hnone := Option.map_eq_none_iff.1 h
      simp only [Settled, Field.onlyFile, hnone]

theorem eq_of_settled {read : Overlay} (h : ∀ f, Settled o f read) : read = o := by
  have hall (fs : List Field) : fs.foldr (fun f read => f.onlyFile o read) read = read := by
    induction fs with
    | nil => rfl
    | cons f fs ih => rw [List.foldr_cons, ih, h f]
  exact (hall (Field.atTop ++ Field.ofTools)).symm

end Settled

/-! ## Entry by entry -/

/-- Reading goes on whatever was read before, and forgets nothing of what `o` says. -/
def Keeps (o : Overlay) (step : Overlay → Reading Overlay) : Prop :=
  ∀ read, ∃ read', step read = .ok read' ∧ ∀ f, Settled o f read → Settled o f read'

def Tells (o : Overlay) (step : Overlay → Reading Overlay) (f : Field) : Prop :=
  ∀ read read', step read = .ok read' → Settled o f read'

section Folds

variable {o : Overlay} {step : Overlay → String × Toml.Value → Reading Overlay} {es : Entries}

theorem foldlM_cons_ok {e : String × Toml.Value} {read read' : Overlay}
    (h : step read e = .ok read') : (e :: es).foldlM step read = es.foldlM step read' := by
  rw [List.foldlM_cons, h]
  rfl

theorem Keeps.foldlM (h : ∀ e ∈ es, Keeps o (step · e)) : Keeps o (es.foldlM step) := by
  induction es with
  | nil => exact fun read => ⟨read, rfl, fun _ hf => hf⟩
  | cons e es ih =>
    intro read
    obtain ⟨read', hread', hkeep⟩ := h e List.mem_cons_self read
    obtain ⟨final, hfinal, hkeep'⟩ := ih (fun e' he' => h e' (List.mem_cons_of_mem e he')) read'
    exact ⟨final, (foldlM_cons_ok hread').trans hfinal, fun f hf => hkeep' f (hkeep f hf)⟩

theorem Tells.foldlM (h : ∀ e ∈ es, Keeps o (step · e)) {e : String × Toml.Value} (he : e ∈ es)
    {f : Field} (htells : Tells o (step · e) f) : Tells o (es.foldlM step) f := by
  induction es with
  | nil => cases he
  | cons e' es ih =>
    intro read final hfinal
    have hes : ∀ e ∈ es, Keeps o (step · e) := fun e he => h e (List.mem_cons_of_mem e' he)
    obtain ⟨read', hread', -⟩ := h e' List.mem_cons_self read
    have hrest : es.foldlM step read' = .ok final := (foldlM_cons_ok hread').symm.trans hfinal
    obtain rfl | he := List.mem_cons.1 he
    · obtain ⟨final', hfinal', hkeep⟩ := Keeps.foldlM hes read'
      cases hrest.symm.trans hfinal'
      exact hkeep f (htells read read' hread')
    · exact ih hes he read' final hrest

/-- An entry that is always refused stops the reading, wherever it stands among entries that are
not. -/
theorem foldlM_refused {complaint : Complaint} {bad : String × Toml.Value} (hmem : bad ∈ es)
    (hbad : ∀ read, step read bad = .error complaint)
    (h : ∀ e ∈ es, e = bad ∨ Keeps o (step · e)) (read : Overlay) :
    es.foldlM step read = .error complaint := by
  induction es generalizing read with
  | nil => cases hmem
  | cons e es ih =>
    by_cases he : e = bad
    · rw [he, List.foldlM_cons, hbad]
      rfl
    · obtain ⟨read', hread', -⟩ := (h e List.mem_cons_self).resolve_left he read
      have hmem' : bad ∈ es := (List.mem_cons.1 hmem).resolve_left fun h => he h.symm
      rw [foldlM_cons_ok hread']
      exact ih hmem' (fun e' he' => h e' (List.mem_cons_of_mem e he')) read'

end Folds

theorem mem_sorted {es : Entries} {e : String × Toml.Value} : e ∈ sorted es ↔ e ∈ es :=
  (List.mergeSort_perm es _).mem_iff

section Reading

variable {o : Overlay} {step : Overlay → Reading Overlay} {f : Field}

theorem keeps_of_onlyFile (h : ∀ read, step read = .ok (f.onlyFile o read)) : Keeps o step :=
  fun read => ⟨_, h read, fun _ hg => hg.onlyFile f⟩

theorem tells_of_onlyFile (h : ∀ read, step read = .ok (f.onlyFile o read)) : Tells o step f := by
  intro read read' hread
  rw [h] at hread
  cases hread
  exact settled_onlyFile f read

theorem readEntry_field (ho : o.Writable) {l : Literal} (hf : f ∈ Field.atTop)
    (hl : f.literal? o = some l) (read : Overlay) :
    readEntry read (f.key, l.value) = .ok (f.onlyFile o read) := by
  have hpath (p : Path)
      (hp : some p ∈ [o.preconditionDir, o.runtimeSource, o.testDir, o.scratchDir]) :
      readPath (.string p.display) = .ok p := by
    obtain ⟨s, rfl⟩ := ho.paths p hp
    exact congrArg Except.ok (Path.asShown_ofString s)
  have hseconds (n : Nat) (hn : some n ∈ [o.toolSeconds, o.programSeconds]) :
      readSeconds (.integer n) = .ok n := by
    have hsmall := ho.seconds n hn
    rw [readSeconds, if_neg (by omega), if_pos (by rw [greatestSeconds]; omega), Int.toNat_natCast]
  cases f with
  | preconditionDir =>
    obtain ⟨p, hp, rfl⟩ := Option.map_eq_some_iff.1 hl
    rw [Field.onlyFile, hp]
    exact congrArg (Except.map fun p => { read with preconditionDir := some p })
      (hpath p (by simp [hp]))
  | runtimeSource =>
    obtain ⟨p, hp, rfl⟩ := Option.map_eq_some_iff.1 hl
    rw [Field.onlyFile, hp]
    exact congrArg (Except.map fun p => { read with runtimeSource := some p })
      (hpath p (by simp [hp]))
  | testDir =>
    obtain ⟨p, hp, rfl⟩ := Option.map_eq_some_iff.1 hl
    rw [Field.onlyFile, hp]
    exact congrArg (Except.map fun p => { read with testDir := some p })
      (hpath p (by simp [hp]))
  | scratchDir =>
    obtain ⟨p, hp, rfl⟩ := Option.map_eq_some_iff.1 hl
    rw [Field.onlyFile, hp]
    exact congrArg (Except.map fun p => { read with scratchDir := some p })
      (hpath p (by simp [hp]))
  | failurePolicy =>
    obtain ⟨policy, hpolicy, rfl⟩ := Option.map_eq_some_iff.1 hl
    rw [Field.onlyFile, hpolicy]
    cases policy <;> rfl
  | exitPolicy =>
    obtain ⟨check, hcheck, rfl⟩ := Option.map_eq_some_iff.1 hl
    rw [Field.onlyFile, hcheck]
    rfl
  | toolLimit =>
    obtain ⟨n, hn, rfl⟩ := Option.map_eq_some_iff.1 hl
    rw [Field.onlyFile, hn]
    exact congrArg (Except.map fun n => { read with toolSeconds := some n })
      (hseconds n (by simp [hn]))
  | programLimit =>
    obtain ⟨n, hn, rfl⟩ := Option.map_eq_some_iff.1 hl
    rw [Field.onlyFile, hn]
    exact congrArg (Except.map fun n => { read with programSeconds := some n })
      (hseconds n (by simp [hn]))
  | compiler => exact absurd hf (by decide)
  | assembler => exact absurd hf (by decide)
  | linker => exact absurd hf (by decide)

theorem mapM_readString (ss : List String) :
    (ss.map Toml.Value.string).mapM readString = .ok ss := by
  induction ss with
  | nil => rfl
  | cons s ss ih =>
    rw [List.map_cons, List.mapM_cons, ih]
    rfl

theorem readToolEntry_field {l : Literal} (hf : f ∈ Field.ofTools) (hl : f.literal? o = some l)
    (read : Overlay) : readToolEntry read (f.key, l.value) = .ok (f.onlyFile o read) := by
  obtain rfl | rfl | rfl : f = .compiler ∨ f = .assembler ∨ f = .linker := by
    simpa [Field.ofTools] using hf
  · obtain ⟨ss, hss, rfl⟩ := Option.map_eq_some_iff.1 hl
    rw [Field.onlyFile, hss]
    exact congrArg (Except.map fun ss => { read with compiler := some ss }) (mapM_readString ss)
  · obtain ⟨s, hs, rfl⟩ := Option.map_eq_some_iff.1 hl
    rw [Field.onlyFile, hs]
    rfl
  · obtain ⟨s, hs, rfl⟩ := Option.map_eq_some_iff.1 hl
    rw [Field.onlyFile, hs]
    rfl

theorem readEntry_unknown {name : String} (h : name ∉ fields) (v : Toml.Value) (read : Overlay) :
    readEntry read (name, v) = .error (.unknownField name fields) := by
  simp only [fields, List.mem_cons, List.not_mem_nil, or_false, not_or] at h
  obtain ⟨h₁, h₂, h₃, h₄, h₅, h₆, h₇, h₈, h₉⟩ := h
  simp only [readEntry]

theorem readToolEntry_unknown {name : String} (h : name ∉ toolFields) (v : Toml.Value)
    (read : Overlay) :
    readToolEntry read (name, v) = .error (.unknownField name toolFields) := by
  simp only [toolFields, List.mem_cons, List.not_mem_nil, or_false, not_or] at h
  obtain ⟨h₁, h₂, h₃⟩ := h
  simp only [readToolEntry]

end Reading

/-! ## The lines of settings -/

section Lines

variable {o : Overlay}

theorem mem_lines {fs : List Field} {l : Line} (h : l ∈ o.lines fs) :
    ∃ f ∈ fs, ∃ literal, f.literal? o = some literal ∧ l = .ofLiteral f.key f.key_bare literal := by
  obtain ⟨f, hf, hline⟩ := List.mem_filterMap.1 h
  obtain ⟨literal, hliteral, rfl⟩ := Option.map_eq_some_iff.1 hline
  exact ⟨f, hf, literal, hliteral, rfl⟩

theorem line_mem {fs : List Field} {f : Field} (hf : f ∈ fs) {literal : Literal}
    (h : f.literal? o = some literal) :
    Line.ofLiteral f.key f.key_bare literal ∈ o.lines fs :=
  List.mem_filterMap.2 ⟨f, hf, by rw [Field.line?, h]; rfl⟩

theorem fits_of_mem {fs : List Field} {l : Line} (h : l ∈ o.lines fs) :
    Fits l.text l.value := by
  obtain ⟨f, -, literal, -, rfl⟩ := mem_lines h
  exact literal.fits

theorem keys_sublist (fs : List Field) :
    ((o.lines fs).map Line.key).Sublist (fs.map Field.key) := by
  induction fs with
  | nil => exact .slnil
  | cons f fs ih =>
    rcases hline : f.line? o with _ | l
    · simp only [Overlay.lines, List.filterMap_cons, hline]
      exact ih.cons _
    · simp only [Overlay.lines, List.filterMap_cons, hline]
      obtain ⟨literal, -, rfl⟩ := Option.map_eq_some_iff.1 hline
      exact ih.cons_cons _

theorem notMem_keys {fs : List Field} {k : String} (hk : k ∉ fs.map Field.key) :
    k ∉ (o.lines fs).map Line.key :=
  fun h => hk ((keys_sublist fs).subset h)

theorem topKeys_nodup : (o.topLines.map Line.key).Nodup := (keys_sublist _).nodup (by decide)

theorem toolKeys_nodup : (o.toolLines.map Line.key).Nodup := (keys_sublist _).nodup (by decide)

theorem itemsHeld_strings (ss : List String) : Toml.itemsHeld (ss.map .string) := by
  induction ss with
  | nil => rfl
  | cons s ss ih => exact ih

theorem held_of_mem (ho : o.Writable) {fs : List Field} {l : Line}
    (h : l ∈ o.lines fs) : l.value.isHeld := by
  obtain ⟨f, -, literal, hliteral, rfl⟩ := mem_lines h
  have hseconds (n : Nat) (hn : some n ∈ [o.toolSeconds, o.programSeconds]) :
      Toml.fitsWord n := by
    have hsmall := ho.seconds n hn
    simp only [Toml.fitsWord, Bool.and_eq_true, decide_eq_true_eq]
    omega
  cases f with
  | toolLimit =>
    obtain ⟨n, hn, rfl⟩ := Option.map_eq_some_iff.1 hliteral
    exact hseconds n (by simp [hn])
  | programLimit =>
    obtain ⟨n, hn, rfl⟩ := Option.map_eq_some_iff.1 hliteral
    exact hseconds n (by simp [hn])
  | compiler =>
    obtain ⟨ss, -, rfl⟩ := Option.map_eq_some_iff.1 hliteral
    exact itemsHeld_strings ss
  | _ =>
    obtain ⟨x, -, rfl⟩ := Option.map_eq_some_iff.1 hliteral
    rfl

/-! ## What is read of them -/

theorem keeps_topLine (ho : o.Writable) {l : Line} (hl : l ∈ o.topLines) :
    Keeps o (readEntry · l.entry) := by
  obtain ⟨f, hf, literal, hliteral, rfl⟩ := mem_lines hl
  exact keeps_of_onlyFile (readEntry_field ho hf hliteral)

theorem keeps_toolLine {l : Line} (hl : l ∈ o.toolLines) : Keeps o (readToolEntry · l.entry) := by
  obtain ⟨f, hf, literal, hliteral, rfl⟩ := mem_lines hl
  exact keeps_of_onlyFile (readToolEntry_field hf hliteral)

def toolEntry (lines : List Line) : String × Toml.Value :=
  ("toolchain", .table .declared (lines.map Line.entry))

theorem keeps_sorted_tools {lines : List Line} (hlines : ∀ l ∈ lines, l ∈ o.toolLines) :
    ∀ e ∈ sorted (lines.map Line.entry), Keeps o (readToolEntry · e) := by
  intro e he
  obtain ⟨l, hl, rfl⟩ := List.mem_map.1 (mem_sorted.1 he)
  exact keeps_toolLine (hlines l hl)

theorem keeps_toolEntry {lines : List Line} (hlines : ∀ l ∈ lines, l ∈ o.toolLines) :
    Keeps o (readEntry · (toolEntry lines)) :=
  Keeps.foldlM (keeps_sorted_tools hlines)

variable {top : List Line} {table : Option (List Line)}

theorem keeps_sorted_document (ho : o.Writable) (htop : ∀ l ∈ top, l ∈ o.topLines)
    (htable : ∀ l ∈ table.getD [], l ∈ o.toolLines) :
    ∀ e ∈ sorted (Toml.documentEntries "toolchain" top table), Keeps o (readEntry · e) := by
  intro e he
  obtain ⟨l, hl, rfl⟩ | ⟨lines, rfl, rfl⟩ := Toml.mem_documentEntries.1 (mem_sorted.1 he)
  · exact keeps_topLine ho (htop l hl)
  · exact keeps_toolEntry htable

theorem foldlM_document (ho : o.Writable) (htop : top.Perm o.topLines)
    (htable : (table.getD []).Perm o.toolLines) :
    (sorted (Toml.documentEntries "toolchain" top table)).foldlM readEntry {} = .ok o := by
  have hkeeps := keeps_sorted_document ho (fun l hl => htop.mem_iff.1 hl)
    (fun l hl => htable.mem_iff.1 hl)
  obtain ⟨read, hread, hkeep⟩ := Keeps.foldlM hkeeps {}
  suffices hsettled : ∀ f, Settled o f read by rwa [eq_of_settled hsettled] at hread
  intro f
  rcases hliteral : f.literal? o with _ | literal
  · exact hkeep f (settled_of_absent hliteral)
  · have hf : f ∈ Field.atTop ∨ f ∈ Field.ofTools := by cases f <;> decide
    obtain hf | hf := hf
    · have hmem := htop.mem_iff.2 (line_mem hf hliteral)
      exact Tells.foldlM hkeeps (mem_sorted.2 (Toml.mem_documentEntries.2 (.inl ⟨_, hmem, rfl⟩)))
        (tells_of_onlyFile (readEntry_field ho hf hliteral)) {} read hread
    · have hmem := htable.mem_iff.2 (line_mem hf hliteral)
      rcases table with _ | lines
      · cases hmem
      · have htells : Tells o (readEntry · (toolEntry lines)) f :=
          Tells.foldlM (keeps_sorted_tools fun l hl => htable.mem_iff.1 hl)
            (mem_sorted.2 (List.mem_map_of_mem hmem))
            (tells_of_onlyFile (readToolEntry_field hf hliteral))
        exact Tells.foldlM hkeeps
          (mem_sorted.2 (Toml.mem_documentEntries.2 (.inr ⟨lines, rfl, rfl⟩))) htells {} read hread

/-! ## Files -/

theorem toolchain_bare : IsBareKey "toolchain" := by decide

theorem toolchain_notMem : "toolchain" ∉ o.topLines.map Line.key := notMem_keys (by decide)

theorem read_malformed {chars : List Char} (h : Toml.parse? chars = none) :
    read (String.ofList chars) = .error .malformed := by
  rw [read, String.toList_ofList, h]

theorem read_refused {chars : List Char} {es : Entries} {complaint : Complaint}
    (hparse : Toml.parse? chars = some es) (hrefused : readDocument es = .error complaint) :
    read (String.ofList chars) =
      .error (if Toml.entriesHeld es then complaint else .malformed) := by
  rw [read, String.toList_ofList, hparse]
  simp only [hrefused]

theorem read_lines (ho : o.Writable) (htop : top.Perm o.topLines)
    (htable : (table.getD []).Perm o.toolLines) :
    read (String.ofList (Toml.document "toolchain" top table)) =
      if o.compiler = some [] then .error .noCompiler else .ok o := by
  have hmem {l : Line} (hl : l ∈ top ++ table.getD []) :
      l ∈ o.lines Field.atTop ∨ l ∈ o.lines Field.ofTools :=
    (List.mem_append.1 hl).imp htop.mem_iff.1 htable.mem_iff.1
  have hname : "toolchain" ∉ top.map Line.key := fun h =>
    toolchain_notMem ((htop.map _).mem_iff.1 h)
  have hparse := Toml.parse?_document table toolchain_bare hname fun l hl =>
    (hmem hl).elim fits_of_mem fits_of_mem
  rw [if_pos ⟨(htop.map _).nodup_iff.2 topKeys_nodup, (htable.map _).nodup_iff.2 toolKeys_nodup⟩]
    at hparse
  have hheld : Toml.entriesHeld (Toml.documentEntries "toolchain" top table) :=
    Toml.entriesHeld_document.2 fun l hl => (hmem hl).elim (held_of_mem ho) (held_of_mem ho)
  have hdocument : readDocument (Toml.documentEntries "toolchain" top table) =
      if o.compiler = some [] then .error .noCompiler else .ok o := by
    rw [readDocument, foldlM_document ho htop htable]
    rfl
  split_ifs at hdocument ⊢ with hcompiler
  · rw [read_refused hparse hdocument, if_pos hheld]
  · rw [read, String.toList_ofList, hparse]
    simp only [hdocument]

/-! ## Lines that do not belong there -/

/-- A file is refused because of a key that no field has, or, if the value of that key is nested too
deep or holds a number that is too large, because it is no document. -/
def RefusesKey (text : String) (l : Line) (known : List String) : Prop :=
  (read text = .error (.unknownField l.key known) ∨ read text = .error .malformed) ∧
    (Fits l.text l.value → l.value.isHeld → read text = .error (.unknownField l.key known))

theorem refusesKey_of_refused {l : Line} {known : List String}
    (hname : "toolchain" ∉ top.map Line.key)
    (hnodup : (top.map Line.key).Nodup ∧ ((table.getD []).map Line.key).Nodup)
    (hwritten : ∀ l' ∈ top ++ table.getD [], l' = l ∨ Fits l'.text l'.value ∧ l'.value.isHeld)
    (hrefused : (sorted (Toml.documentEntries "toolchain" top table)).foldlM readEntry {} =
      .error (.unknownField l.key known)) :
    RefusesKey (String.ofList (Toml.document "toolchain" top table)) l known := by
  have hdocument : readDocument (Toml.documentEntries "toolchain" top table) =
      .error (.unknownField l.key known) := by
    rw [readDocument, hrefused]
    rfl
  constructor
  · obtain hparse | hparse := Toml.parse?_document_only table toolchain_bare hname
    · exact .inr (read_malformed hparse)
    · rw [if_pos hnodup] at hparse
      rw [read_refused hparse hdocument]
      split_ifs
      · exact .inl rfl
      · exact .inr rfl
  · intro hfits hheld
    have hparse := Toml.parse?_document table toolchain_bare hname fun l' hl' => by
      obtain rfl | ⟨hfits', -⟩ := hwritten l' hl'
      · exact hfits
      · exact hfits'
    have hall : Toml.entriesHeld (Toml.documentEntries "toolchain" top table) :=
      Toml.entriesHeld_document.2 fun l' hl' => by
        obtain rfl | ⟨-, hheld'⟩ := hwritten l' hl'
        · exact hheld
        · exact hheld'
    rw [if_pos hnodup] at hparse
    rw [read_refused hparse hdocument, if_pos hall]

theorem read_repeated (hname : "toolchain" ∉ top.map Line.key)
    (h : ¬ ((top.map Line.key).Nodup ∧ ((table.getD []).map Line.key).Nodup)) :
    read (String.ofList (Toml.document "toolchain" top table)) = .error .malformed := by
  refine read_malformed ?_
  obtain hparse | hparse := Toml.parse?_document_only table toolchain_bare hname
  · exact hparse
  · rwa [if_neg h] at hparse

theorem refusesKey_top (ho : o.Writable) {l : Line} (htop : top.Perm (l :: o.topLines))
    (htable : (table.getD []).Perm o.toolLines) (hkey : l.key ∉ fields) :
    RefusesKey (String.ofList (Toml.document "toolchain" top table)) l fields := by
  have hknown : ∀ k ∈ Field.atTop.map Field.key, k ∈ fields := by decide
  have hnew : l.key ∉ o.topLines.map Line.key := notMem_keys fun h => hkey (hknown _ h)
  have hline {l' : Line} (hl' : l' ∈ top) : l' = l ∨ l' ∈ o.topLines :=
    List.mem_cons.1 (htop.mem_iff.1 hl')
  refine refusesKey_of_refused ?_ ⟨?_, (htable.map _).nodup_iff.2 toolKeys_nodup⟩ ?_ ?_
  · intro h
    obtain h | h := List.mem_cons.1 ((htop.map Line.key).mem_iff.1 h)
    · exact hkey (h ▸ by decide)
    · exact toolchain_notMem h
  · exact (htop.map Line.key).nodup_iff.2 (List.nodup_cons.2 ⟨hnew, topKeys_nodup⟩)
  · intro l' hl'
    obtain hl' | hl' := List.mem_append.1 hl'
    · exact (hline hl').imp_right fun hl' => ⟨fits_of_mem hl', held_of_mem ho hl'⟩
    · have hl' := htable.mem_iff.1 hl'
      exact .inr ⟨fits_of_mem hl', held_of_mem ho hl'⟩
  · have hmem : l ∈ top := htop.mem_iff.2 List.mem_cons_self
    refine foldlM_refused (o := o)
      (mem_sorted.2 (Toml.mem_documentEntries.2 (.inl ⟨l, hmem, rfl⟩)))
      (readEntry_unknown hkey l.value) (fun e he => ?_) {}
    obtain ⟨l', hl', rfl⟩ | ⟨lines, rfl, rfl⟩ := Toml.mem_documentEntries.1 (mem_sorted.1 he)
    · exact (hline hl').imp (congrArg Line.entry) (keeps_topLine ho)
    · exact .inr (keeps_toolEntry fun l hl => htable.mem_iff.1 hl)

theorem refusesKey_table (ho : o.Writable) {l : Line} {lines : List Line}
    (htop : top.Perm o.topLines) (hlines : lines.Perm (l :: o.toolLines))
    (hkey : l.key ∉ toolFields) :
    RefusesKey (String.ofList (Toml.document "toolchain" top (some lines))) l toolFields := by
  have hknown : ∀ k ∈ Field.ofTools.map Field.key, k ∈ toolFields := by decide
  have hnew : l.key ∉ o.toolLines.map Line.key := notMem_keys fun h => hkey (hknown _ h)
  have hline {l' : Line} (hl' : l' ∈ lines) : l' = l ∨ l' ∈ o.toolLines :=
    List.mem_cons.1 (hlines.mem_iff.1 hl')
  refine refusesKey_of_refused ?_ ⟨(htop.map _).nodup_iff.2 topKeys_nodup, ?_⟩ ?_ ?_
  · exact fun h => toolchain_notMem ((htop.map _).mem_iff.1 h)
  · exact (hlines.map Line.key).nodup_iff.2 (List.nodup_cons.2 ⟨hnew, toolKeys_nodup⟩)
  · intro l' hl'
    obtain hl' | hl' := List.mem_append.1 hl'
    · have hl' := htop.mem_iff.1 hl'
      exact .inr ⟨fits_of_mem hl', held_of_mem ho hl'⟩
    · exact (hline hl').imp_right fun hl' => ⟨fits_of_mem hl', held_of_mem ho hl'⟩
  · have hmem : l ∈ lines := hlines.mem_iff.2 List.mem_cons_self
    have htools (read : Overlay) :
        readEntry read (toolEntry lines) = .error (.unknownField l.key toolFields) := by
      refine foldlM_refused (o := o) (mem_sorted.2 (List.mem_map_of_mem hmem))
        (readToolEntry_unknown hkey l.value) (fun e he => ?_) read
      obtain ⟨l', hl', rfl⟩ := List.mem_map.1 (mem_sorted.1 he)
      exact (hline hl').imp (congrArg Line.entry) keeps_toolLine
    refine foldlM_refused (o := o)
      (mem_sorted.2 (Toml.mem_documentEntries.2 (.inr ⟨lines, rfl, rfl⟩))) htools
      (fun e he => ?_) {}
    obtain ⟨l', hl', rfl⟩ | ⟨lines', hlines', rfl⟩ := Toml.mem_documentEntries.1 (mem_sorted.1 he)
    · exact .inr (keeps_topLine ho (htop.mem_iff.1 hl'))
    · cases hlines'
      exact .inl rfl

end Lines

/-- Settings are read back from a file that gives every field that is present, in any order. A
compiler command without a word is complained about. A further line whose key its section does not
have, or has already, makes the file unreadable, whatever its value is. -/
theorem settings_read_back (o : Overlay) (ho : o.Writable) (top : List Line)
    (table : Option (List Line)) :
    let text := String.ofList (Toml.document "toolchain" top table)
    (top.Perm o.topLines → (table.getD []).Perm o.toolLines →
      read text = if o.compiler = some [] then .error .noCompiler else .ok o) ∧
    ∀ l : Line,
      (top.Perm (l :: o.topLines) → (table.getD []).Perm o.toolLines →
        (l.key ∉ fields → RefusesKey text l fields) ∧
        (l.key ∈ o.topLines.map Line.key → read text = .error .malformed)) ∧
      (top.Perm o.topLines → (table.getD []).Perm (l :: o.toolLines) →
        (l.key ∉ toolFields → RefusesKey text l toolFields) ∧
        (l.key ∈ o.toolLines.map Line.key → read text = .error .malformed)) := by
  refine ⟨read_lines ho, fun l => ⟨fun htop htable => ⟨refusesKey_top ho htop htable, ?_⟩, ?_⟩⟩
  · intro hkey
    refine read_repeated ?_ fun h => ?_
    · intro h
      obtain h | h := List.mem_cons.1 ((htop.map Line.key).mem_iff.1 h)
      · exact toolchain_notMem (h ▸ hkey)
      · exact toolchain_notMem h
    · exact (List.nodup_cons.1 ((htop.map Line.key).nodup_iff.1 h.1)).1 hkey
  · intro htop htable
    rcases table with _ | lines
    · exact absurd htable.length_eq (by simp)
    · refine ⟨refusesKey_table ho htop htable, fun hkey => read_repeated ?_ fun h => ?_⟩
      · exact fun h => toolchain_notMem ((htop.map _).mem_iff.1 h)
      · exact (List.nodup_cons.1 ((htable.map Line.key).nodup_iff.1 h.2)).1 hkey

def oddSettings : Overlay :=
  { testDir := some (.ofString "a\"\n[toolchain]")
    failurePolicy := some .failFast
    toolSeconds := some 9223372036854775807
    compiler := some ["", "# \\"]
    linker := some "é\x7f" }

def oddText : String :=
  "tool_timeout_secs = 9223372036854775807\n" ++
  "failure_policy = \"fail-fast\"\n" ++
  "test_dir = \"a\\\"\\n[toolchain]\"\n" ++
  "[toolchain]\n" ++
  "linker = \"é\\u007f\"\n" ++
  "compiler = [\"\", \"# \\\\\"]\n"

def strayLine : Line := .ofLiteral "linkers" (by decide) (.texts ["]\nlinker = 1"])

theorem odd_settings_read_back :
    read oddText = .ok oddSettings ∧
      read (String.ofList (Toml.document "toolchain" oddSettings.topLines
        (some (strayLine :: oddSettings.toolLines)))) =
          .error (.unknownField "linkers" toolFields) := by
  have hwritable : oddSettings.Writable := by
    constructor
    · intro p hp
      obtain rfl : p = .ofString "a\"\n[toolchain]" := by simpa [oddSettings] using hp
      exact ⟨_, rfl⟩
    · intro n hn
      obtain rfl : n = 9223372036854775807 := by simpa [oddSettings] using hn
      decide
  constructor
  · have htext : String.ofList (Toml.document "toolchain" oddSettings.topLines.reverse
        (some oddSettings.toolLines.reverse)) = oddText := by
      decide +kernel
    rw [← htext]
    exact (settings_read_back oddSettings hwritable oddSettings.topLines.reverse
      (some oddSettings.toolLines.reverse)).1 (List.reverse_perm _) (List.reverse_perm _)
  · have hrefuses := (((settings_read_back oddSettings hwritable oddSettings.topLines
      (some (strayLine :: oddSettings.toolLines))).2 strayLine).2 (.refl _) (.refl _)).1 (by decide)
    exact hrefuses.2 (Literal.fits (.texts ["]\nlinker = 1"])) rfl

end Schema

end Proctor
