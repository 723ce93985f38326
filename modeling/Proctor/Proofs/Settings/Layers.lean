import Proctor.Program

/-!
# Settings in layers

A run takes its settings from three layers: the options of the command line, the settings file and
the defaults. Every field is laid over by itself: its value is the one the options give, or else the
one the file gives, or else the default. For most fields a layer gives a value by having one. Four
are irregular: a compiler command without a word gives none, zero seconds give no limit as a value,
and a flag can only be raised, while the file may also say no. Whatever the layers say, a run can
start with what comes out.
-/

set_option autoImplicit false

namespace Proctor

namespace Blank

/-- The code points with the property White_Space. -/
def codePoints : List Nat :=
  [0x9, 0xA, 0xB, 0xC, 0xD, 0x20, 0x85, 0xA0, 0x1680, 0x2000, 0x2001, 0x2002, 0x2003, 0x2004,
    0x2005, 0x2006, 0x2007, 0x2008, 0x2009, 0x200A, 0x2028, 0x2029, 0x202F, 0x205F, 0x3000]

/-- What stands between white space in a text, without the empty parts. -/
def split (text : String) : List String :=
  ((text.toList.splitOnP fun c => codePoints.contains c.toNat).filter (!·.isEmpty)).map
    String.ofList

theorem isBlank_eq (c : Char) : isBlank c = codePoints.contains c.toNat := by
  rw [Bool.eq_iff_iff]
  simp only [isBlank, codePoints, Bool.or_eq_true, Bool.and_eq_true, decide_eq_true_eq,
    beq_iff_eq, List.contains_iff_mem, List.mem_cons, List.not_mem_nil, or_false]
  omega

/-- The word being read is the part of the text that has not ended yet. -/
theorem wordsFrom_eq (word text : List Char) :
    wordsFrom word text = (text.splitOnPPrepend isBlank word).filter (!·.isEmpty) := by
  induction text generalizing word with
  | nil => cases word <;> simp [wordsFrom]
  | cons c text ih =>
    rw [wordsFrom, List.splitOnPPrepend_cons_eq_if, List.splitOnP_eq_splitOnPPrepend]
    rcases isBlank c with _ | _
    · exact ih (c :: word)
    · cases word <;> simp [ih]

theorem words_eq_split (text : String) : words text = split text := by
  have hblank : isBlank = fun c => codePoints.contains c.toNat := funext isBlank_eq
  -- Splitting is reading on from an empty word.
  rw [words, wordsFrom_eq, split, ← hblank]
  rfl

end Blank

inductive Field where
  | preconditionDir
  | runtimeSource
  | testDir
  | scratchDir
  | compiler
  | assembler
  | linker
  | failurePolicy
  | exitPolicy
  | toolLimit
  | programLimit
  deriving DecidableEq, Repr

namespace Field

def Value : Field → Type
  | .preconditionDir => Path
  | .runtimeSource => Path
  | .testDir => Path
  | .scratchDir => Path
  | .compiler => List String
  | .assembler => String
  | .linker => String
  | .failurePolicy => FailurePolicy
  | .exitPolicy => ExitPolicy
  | .toolLimit => Option Duration
  | .programLimit => Option Duration

def inSettings : (f : Field) → Settings → f.Value
  | .preconditionDir, s => s.preconditionDir
  | .runtimeSource, s => s.runtimeSource
  | .testDir, s => s.testDir
  | .scratchDir, s => s.scratchDir
  | .compiler, s => s.toolchain.compiler
  | .assembler, s => s.toolchain.assembler
  | .linker, s => s.toolchain.linker
  | .failurePolicy, s => s.failurePolicy
  | .exitPolicy, s => s.exitPolicy
  | .toolLimit, s => s.toolLimit
  | .programLimit, s => s.programLimit

def inFile : (f : Field) → Overlay → Option f.Value
  | .preconditionDir, o => o.preconditionDir
  | .runtimeSource, o => o.runtimeSource
  | .testDir, o => o.testDir
  | .scratchDir, o => o.scratchDir
  | .compiler, o => o.compiler
  | .assembler, o => o.assembler
  | .linker, o => o.linker
  | .failurePolicy, o => o.failurePolicy
  | .exitPolicy, o => o.checkExitStatus.map fun check => if check then .requireSuccess else .ignore
  | .toolLimit, o => o.toolSeconds.map fun n => if n = 0 then none else some (⟨n, 0⟩ : Duration)
  | .programLimit, o =>
    o.programSeconds.map fun n => if n = 0 then none else some (⟨n, 0⟩ : Duration)

def inOptions : (f : Field) → Options → Option f.Value
  | .preconditionDir, o => o.preconditionDir
  | .runtimeSource, o => o.runtime
  | .testDir, o => o.testDir
  | .scratchDir, o => o.scratchDir
  | .compiler, o => (o.compiler.map Blank.split).filter fun command => !command.isEmpty
  | .assembler, o => o.assembler
  | .linker, o => o.linker
  | .failurePolicy, o => if o.exitFirst then some .failFast else none
  | .exitPolicy, o => if o.checkExitStatus then some .requireSuccess else none
  | .toolLimit, o => o.timeout.map fun n => if n = 0 then none else some (⟨n, 0⟩ : Duration)
  | .programLimit, o => o.execTimeout.map fun n => if n = 0 then none else some (⟨n, 0⟩ : Duration)

/-- A file that says what `o` says of a field, and what `other` says of all else. -/
def onlyFile : Field → Overlay → Overlay → Overlay
  | .preconditionDir, o, other => { other with preconditionDir := o.preconditionDir }
  | .runtimeSource, o, other => { other with runtimeSource := o.runtimeSource }
  | .testDir, o, other => { other with testDir := o.testDir }
  | .scratchDir, o, other => { other with scratchDir := o.scratchDir }
  | .compiler, o, other => { other with compiler := o.compiler }
  | .assembler, o, other => { other with assembler := o.assembler }
  | .linker, o, other => { other with linker := o.linker }
  | .failurePolicy, o, other => { other with failurePolicy := o.failurePolicy }
  | .exitPolicy, o, other => { other with checkExitStatus := o.checkExitStatus }
  | .toolLimit, o, other => { other with toolSeconds := o.toolSeconds }
  | .programLimit, o, other => { other with programSeconds := o.programSeconds }

def onlyOptions : Field → Options → Options → Options
  | .preconditionDir, o, other => { other with preconditionDir := o.preconditionDir }
  | .runtimeSource, o, other => { other with runtime := o.runtime }
  | .testDir, o, other => { other with testDir := o.testDir }
  | .scratchDir, o, other => { other with scratchDir := o.scratchDir }
  | .compiler, o, other => { other with compiler := o.compiler }
  | .assembler, o, other => { other with assembler := o.assembler }
  | .linker, o, other => { other with linker := o.linker }
  | .failurePolicy, o, other => { other with exitFirst := o.exitFirst }
  | .exitPolicy, o, other => { other with checkExitStatus := o.checkExitStatus }
  | .toolLimit, o, other => { other with timeout := o.timeout }
  | .programLimit, o, other => { other with execTimeout := o.execTimeout }

theorem limitOr_eq (seconds : Option Nat) (base : Option Duration) :
    limitOr seconds base =
      (seconds.map fun n => if n = 0 then none else some (⟨n, 0⟩ : Duration)).getD base := by
  cases seconds <;> rfl

theorem raised_eq {α : Type} (flag : Bool) (value base : α) :
    (if flag then value else base) = (if flag then some value else none).getD base := by
  cases flag <;> rfl

theorem withCompiler_compiler (t : Toolchain) (command : List String) :
    (t.withCompiler command).compiler =
      ((some command).filter fun command => !command.isEmpty).getD t.compiler := by
  cases command <;> rfl

/-- One layer: where the options give a value, it replaces the one there was. -/
theorem inSettings_options (f : Field) (o : Options) (base : Settings) :
    f.inSettings (o.apply base) = (f.inOptions o).getD (f.inSettings base) := by
  cases f with
  | compiler =>
    refine (withCompiler_compiler base.toolchain (words (o.compiler.getD ""))).trans ?_
    rw [inOptions]
    rcases o.compiler with _ | text
    · rfl
    · rw [Option.getD_some, Blank.words_eq_split]
      rfl
  | failurePolicy => exact raised_eq o.exitFirst .failFast base.failurePolicy
  | exitPolicy => exact raised_eq o.checkExitStatus .requireSuccess base.exitPolicy
  | toolLimit => exact limitOr_eq o.timeout base.toolLimit
  | programLimit => exact limitOr_eq o.execTimeout base.programLimit
  | _ => rfl

theorem inSettings_file (f : Field) (o : Overlay) (base : Settings)
    (hcompiler : o.compiler ≠ some []) :
    f.inSettings (o.apply base) = (f.inFile o).getD (f.inSettings base) := by
  cases f with
  | compiler =>
    refine (withCompiler_compiler base.toolchain (o.compiler.getD [])).trans ?_
    rw [inFile]
    match hc : o.compiler with
    | none => rfl
    | some [] => exact absurd hc hcompiler
    | some (word :: words) => rfl
  | toolLimit => exact limitOr_eq o.toolSeconds base.toolLimit
  | programLimit => exact limitOr_eq o.programSeconds base.programLimit
  | _ => rfl

theorem inSettings_only (f : Field) (file file' : Overlay) (options options' : Options)
    (base : Settings) :
    f.inSettings ((f.onlyOptions options options').apply ((f.onlyFile file file').apply base)) =
      f.inSettings (options.apply (file.apply base)) := by
  cases f with
  | compiler =>
    simp only [inSettings, Options.apply, Overlay.apply, withCompiler_compiler]
    rfl
  | _ => rfl

end Field

structure Settings.Usable (s : Settings) : Prop where
  compiler : s.toolchain.compiler ≠ []
  toolLimit : s.toolLimit ≠ some ⟨0, 0⟩
  programLimit : s.programLimit ≠ some ⟨0, 0⟩

theorem withCompiler_ne_nil {t : Toolchain} (h : t.compiler ≠ []) (command : List String) :
    (t.withCompiler command).compiler ≠ [] := by
  cases command with
  | nil => exact h
  | cons word words => exact List.cons_ne_nil word words

theorem limitOr_ne_zero {base : Option Duration} (h : base ≠ some ⟨0, 0⟩) (seconds : Option Nat) :
    limitOr seconds base ≠ some ⟨0, 0⟩ := by
  cases seconds with
  | none => exact h
  | some n =>
    intro hzero
    rw [limitOr, limitOfSeconds] at hzero
    split at hzero
    · cases hzero
    · next hn => exact hn (congrArg Duration.seconds (Option.some.inj hzero))

theorem Settings.usable_default : Usable {} where
  compiler := List.cons_ne_nil _ _
  toolLimit := by decide
  programLimit := by decide

theorem Overlay.usable_apply (o : Overlay) {base : Settings} (h : base.Usable) :
    (o.apply base).Usable where
  compiler := withCompiler_ne_nil h.compiler _
  toolLimit := limitOr_ne_zero h.toolLimit _
  programLimit := limitOr_ne_zero h.programLimit _

theorem Options.usable_apply (o : Options) {base : Settings} (h : base.Usable) :
    (o.apply base).Usable where
  compiler := withCompiler_ne_nil h.compiler _
  toolLimit := limitOr_ne_zero h.toolLimit _
  programLimit := limitOr_ne_zero h.programLimit _

namespace Program

variable {ω : Type}

theorem compiler_of_readDocument {entries : Toml.Entries} {o : Overlay}
    (h : Schema.readDocument entries = .ok o) : o.compiler ≠ some [] := by
  rw [Schema.readDocument] at h
  rcases hread : (Schema.sorted entries).foldlM Schema.readEntry {} with complaint | read
  · rw [hread] at h
    cases h
  · rw [hread] at h
    change (if read.compiler = some [] then Except.error Complaint.noCompiler else .ok read) =
      .ok o at h
    split at h
    · cases h
    · next hsome =>
      obtain rfl := Except.ok.inj h
      exact hsome

theorem compiler_of_read {text : String} {o : Overlay} (h : Schema.read text = .ok o) :
    o.compiler ≠ some [] := by
  rw [Schema.read] at h
  split at h
  · cases h
  · next entries _ =>
    rcases hread : Schema.readDocument entries with complaint | read
    · rw [hread] at h
      cases h
    · rw [hread] at h
      obtain rfl := Except.ok.inj h
      exact compiler_of_readDocument hread

/-- What the file to be read says. Without a file, nothing is said. A file that cannot be read, is
no text or is not accepted is a problem. -/
def loaded (host : Host ω) (w : ω) : Option Path → Except Problem Overlay
  | none => .ok {}
  | some file =>
    match (host.content w file).map Bytes.text? with
    | .error cause => .error (.inputOutput ("cannot read config file " ++ file.display) cause)
    | .ok none => .error (.inputOutput ("cannot read config file " ++ file.display) .notText)
    | .ok (some text) =>
      (Schema.read text).mapError fun complaint => .badSettings file complaint.message

theorem readOverlay_eq (host : Host ω) (file : Path) (w : ω) :
    readOverlay host file w = (loaded host w (some file), w) := by
  simp only [readOverlay, loaded]
  rcases host.content w file with cause | bytes
  · rfl
  · rcases htext : bytes.text? with _ | text
    · simp only [Except.map, htext]
    · simp only [Except.map, htext]
      rcases Schema.read text with complaint | o <;> rfl

theorem compiler_of_loaded {host : Host ω} {w : ω} {file? : Option Path} {o : Overlay}
    (h : loaded host w file? = .ok o) : o.compiler ≠ some [] := by
  rcases file? with _ | file
  · obtain rfl := Except.ok.inj h
    simp
  · simp only [loaded] at h
    split at h
    · cases h
    · cases h
    · next text _ =>
      rcases hread : Schema.read text with complaint | read
      · rw [hread] at h
        cases h
      · rw [hread] at h
        obtain rfl := Except.ok.inj h
        exact compiler_of_read hread

theorem fileToRead?_eq (host : Host ω) (w : ω) (options : Options) (implicit : Path) :
    fileToRead? host w options implicit =
      options.config.or (if host.isFile w implicit then some implicit else none) := by
  rw [fileToRead?]
  rcases options.config with _ | file <;> rfl

theorem resolve_eq (host : Host ω) (options : Options) (implicit : Path) (w : ω) :
    resolve host options implicit w =
      ((loaded host w
          (options.config.or (if host.isFile w implicit then some implicit else none))).map
        fun o => options.apply (o.apply {}), w) := by
  rw [resolve, fileToRead?_eq]
  rcases options.config.or (if host.isFile w implicit then some implicit else none) with _ | file
  · rfl
  · simp only [Action.andThen, readOverlay_eq]
    rcases loaded host w (some file) with p | o <;> rfl

/-- The file to be read is the one that the options name, or else the implicit one if there is such
a file. If it cannot be loaded, that is the problem; there is no other. Otherwise every field has
the value that the options give it, or else the file, or else the default, and nothing that is said
of other fields changes it. The settings can be used. -/
theorem resolve_in_layers (host : Host ω) (options : Options) (implicit : Path) (w : ω) :
    let file? := options.config.or (if host.isFile w implicit then some implicit else none)
    match loaded host w file? with
    | .error p => resolve host options implicit w = (.error p, w)
    | .ok o => ∃ s, resolve host options implicit w = (.ok s, w) ∧ s.Usable ∧
      ∀ f : Field,
        f.inSettings s = ((f.inOptions options).or (f.inFile o)).getD (f.inSettings {}) ∧
        ∀ (o' : Overlay) (options' : Options), f.inSettings
          ((f.onlyOptions options options').apply ((f.onlyFile o o').apply {})) =
            f.inSettings s := by
  intro file?
  have hresolve : resolve host options implicit w =
      ((loaded host w file?).map fun o => options.apply (o.apply {}), w) :=
    resolve_eq host options implicit w
  rcases hload : loaded host w file? with p | o
  · rw [hresolve, hload]
    rfl
  · refine ⟨options.apply (o.apply {}), ?_, ?_, fun f => ⟨?_, fun o' options' => ?_⟩⟩
    · rw [hresolve, hload]
      rfl
    · exact options.usable_apply (o.usable_apply Settings.usable_default)
    · rw [Field.inSettings_options, Field.inSettings_file f o {} (compiler_of_loaded hload),
        Option.getD_or]
    · exact Field.inSettings_only f o o' options options' {}

end Program

end Proctor
