import Mathlib.Data.List.TakeWhile
import Proctor.CommandLine.Parser
import Proctor.Proofs.CommandLine.Values

/-!
# Options in any order

A command line is written in phrases: an option with its value, in one argument or in two, a flag by
its name or by its letter, or the name of a test. The reader takes one phrase after another and is
never left with half of one, so that phrases may come in any order. Test names keep theirs, and may
also follow a separator at the end.
-/

set_option autoImplicit false

namespace Proctor

namespace CommandLine

inductive Phrase where
  /-- An option and its value, with an equals sign between them. -/
  | joined (s : Setting) (value : Bytes)
  /-- An option, and its value as the next argument. -/
  | apart (s : Setting) (value : Bytes)
  | named (f : Flag)
  | lettered (f : Flag) (letter : Char)
  | test (name : String)

namespace Phrase

def arguments : Phrase → List Bytes
  | .joined s value => [Bytes.ofString ("--" ++ s.name ++ "=") ++ value]
  | .apart s value => [Bytes.ofString ("--" ++ s.name), value]
  | .named f => [Bytes.ofString ("--" ++ f.name)]
  | .lettered _ letter => [Bytes.ofString ("-" ++ letter.toString)]
  | .test name => [Bytes.ofString name]

/-- Whether a phrase can be told from others: a value by itself must not look like an option unless
its option takes anything, nor must the name of a test; a letter must be that of its flag. -/
def Distinct : Phrase → Prop
  | .joined _ _ => True
  | .apart s value => s.takesAnything = true ∨ value.head? ≠ some Argument.dash
  | .named _ => True
  | .lettered f letter => f.letter? = some letter
  | .test name => (Bytes.ofString name).head? ≠ some Argument.dash

def setting? : Phrase → Option (Setting × Bytes)
  | .joined s value => some (s, value)
  | .apart s value => some (s, value)
  | _ => none

def flag? : Phrase → Option Flag
  | .named f => some f
  | .lettered f _ => some f
  | _ => none

def test? : Phrase → Option String
  | .test name => some name
  | _ => none

def take (o : Options) : Phrase → Except Refusal Options
  | .joined s value => o.put s value
  | .apart s value => o.put s value
  | .named f => o.raise f
  | .lettered f _ => o.raise f
  | .test name => .ok { o with tests := o.tests ++ [name] }

end Phrase

namespace Argument

theorem cut_joined {name : Bytes} (h : equals ∉ name) (value : Bytes) :
    cut (name ++ equals :: value) = (name, some value) := by
  have hname : ∀ b ∈ name, decide (b ≠ equals) = true := by
    intro b hb
    exact decide_eq_true fun heq => h (heq ▸ hb)
  rw [cut, List.dropWhile_append_of_pos hname, List.takeWhile_append_of_pos hname]
  simp

theorem cut_plain {name : Bytes} (h : equals ∉ name) : cut name = (name, none) := by
  have hname : ∀ b ∈ name, decide (b ≠ equals) = true := by
    intro b hb
    exact decide_eq_true fun heq => h (heq ▸ hb)
  rw [cut, List.dropWhile_eq_nil_iff.2 hname]

theorem read_long {rest : Bytes} (h : rest ≠ []) :
    read (dash :: dash :: rest) = .long (cut rest).1 (cut rest).2 := by
  simp [read, h]

theorem read_plain {value : Bytes} (h : value.head? ≠ some dash) : read value = .plain value := by
  rcases value with _ | ⟨b, value⟩
  · rfl
  · have hb : b ≠ dash := fun heq => h (congrArg some heq)
    simp [read, hb]

theorem ofString_dashes (name : String) :
    Bytes.ofString ("--" ++ name) = dash :: dash :: Bytes.ofString name := by
  rw [Bytes.ofString_append]
  rfl

end Argument

namespace Setting

theorem ofName?_name (s : Setting) : ofName? s.name = some s := by
  cases s <;> decide

theorem flag_ofName?_name (s : Setting) : Flag.ofName? s.name = none := by
  cases s <;> decide

theorem equals_notMem_name (s : Setting) : Argument.equals ∉ Bytes.ofString s.name := by
  cases s <;> decide

theorem name_ne_nil (s : Setting) : Bytes.ofString s.name ≠ [] := by
  cases s <;> decide

end Setting

namespace Flag

theorem ofName?_name (f : Flag) : ofName? f.name = some f := by
  cases f <;> decide

theorem equals_notMem_name (f : Flag) : Argument.equals ∉ Bytes.ofString f.name := by
  cases f <;> decide

theorem name_ne_nil (f : Flag) : Bytes.ofString f.name ≠ [] := by
  cases f <;> decide

theorem read_letter {f : Flag} {letter : Char} (h : f.letter? = some letter) :
    Argument.read (Bytes.ofString ("-" ++ letter.toString)) = .short letter.toString [] ∧
      letter.toString.toList = [letter] ∧ ofLetter? letter = some f := by
  cases f <;> cases h <;> decide

end Flag

namespace Progress

/-- Nothing is half read: what is pending can be settled, and the options are then `o`. -/
def Ready (p : Progress) (o : Options) (onlyTests : Bool) : Prop :=
  p.settle = .ok { options := o, onlyTests }

variable {p : Progress} {o o' : Options} {late : Bool}

theorem ready_of_settled : ({ options := o, onlyTests := late } : Progress).Ready o late := rfl

theorem Ready.onlyTests (h : p.Ready o late) : p.onlyTests = late := by
  rcases p with ⟨options, pending, only⟩
  rcases pending with _ | (⟨s, _ | value⟩ | names)
  · exact congrArg Progress.onlyTests (Except.ok.inj h)
  · cases h
  · rcases hput : options.put s value with refusal | taken
    · simp [Ready, settle, hput, bind, Except.bind] at h
    · simp only [Ready, settle, hput, bind, Except.bind, pure, Except.pure] at h
      exact congrArg Progress.onlyTests (Except.ok.inj h)
  · rcases hnames : names.mapM Options.readText with refusal | texts
    · simp [Ready, settle, hnames, bind, Except.bind] at h
    · simp only [Ready, settle, hnames, bind, Except.bind, pure, Except.pure] at h
      exact congrArg Progress.onlyTests (Except.ok.inj h)

theorem Ready.pending (h : p.Ready o late) (s : Setting) :
    p.pending ≠ some (.setting s none) := by
  intro hpending
  rw [Ready, settle, hpending] at h
  cases h

theorem Ready.takesAnything (h : p.Ready o late) : p.takesAnything = false := by
  rw [Progress.takesAnything]
  split
  · next hpending => exact absurd hpending (h.pending _)
  · rfl

theorem Ready.addTest (h : p.Ready o late) (name : String) :
    ∃ p', p.addTest (Bytes.ofString name) = .ok p' ∧
      p'.Ready { o with tests := o.tests ++ [name] } late := by
  rw [Progress.addTest]
  split
  · next names hpending =>
    refine ⟨_, rfl, ?_⟩
    rcases hnames : names.mapM Options.readText with refusal | texts
    · simp [Ready, settle, hpending, hnames, bind, Except.bind] at h
    · simp only [Ready, settle, hpending, hnames, bind, Except.bind, pure, Except.pure] at h
      have hmore : (names ++ [Bytes.ofString name]).mapM Options.readText =
          .ok (texts ++ [name]) := by
        rw [List.mapM_append, hnames, List.mapM_cons, Options.readText_ofString]
        rfl
      simp only [Ready, settle, hmore, bind, Except.bind, pure, Except.pure]
      rw [Except.ok.injEq, Progress.mk.injEq] at h ⊢
      rw [← h.1, List.append_assoc]
      exact ⟨rfl, rfl, h.2.2⟩
  · rw [Ready] at h
    rw [h]
    refine ⟨_, rfl, ?_⟩
    simp [Ready, settle, Options.readText_ofString, bind, Except.bind, pure, Except.pure]

theorem Ready.addPlain (h : p.Ready o late) (value : Bytes) :
    p.addPlain value = p.addTest value := by
  rw [Progress.addPlain]
  split
  · next hpending => exact absurd hpending (h.pending _)
  · rfl

theorem Ready.addFlag (h : p.Ready o late) {f : Flag} (hraise : o.raise f = .ok o') :
    ∃ p', p.addFlag f = .ok p' ∧ p'.Ready o' late := by
  rw [Ready] at h
  refine ⟨{ options := o', onlyTests := late }, ?_, ready_of_settled⟩
  simp [Progress.addFlag, h, hraise, bind, Except.bind, pure, Except.pure]

theorem Ready.step_long (h : p.Ready o false) {rest : Bytes} (hrest : rest ≠ []) :
    p.step (Argument.dash :: Argument.dash :: rest) =
      p.addLong (Argument.cut rest).1 (Argument.cut rest).2 := by
  simp only [step, h.onlyTests, h.takesAnything, Argument.read_long hrest]
  rfl

theorem addLong_flag (p : Progress) (f : Flag) :
    p.addLong (Bytes.ofString f.name) none = p.addFlag f := by
  simp only [addLong, Bytes.text?_eq_some_iff.2 rfl, Option.bind_some, f.ofName?_name]

theorem Ready.addLong_joined (h : p.Ready o late) {s : Setting} {value : Bytes}
    (hput : o.put s value = .ok o') :
    p.addLong (Bytes.ofString s.name) (some value) = .ok { options := o', onlyTests := late } := by
  rw [Ready] at h
  simp only [addLong, Bytes.text?_eq_some_iff.2 rfl, Option.bind_some, s.flag_ofName?_name,
    s.ofName?_name, h, bind, Except.bind, hput, pure, Except.pure]

theorem Ready.addLong_apart (h : p.Ready o late) (s : Setting) :
    p.addLong (Bytes.ofString s.name) none =
      .ok { options := o, pending := some (.setting s none), onlyTests := late } := by
  rw [Ready] at h
  simp only [addLong, Bytes.text?_eq_some_iff.2 rfl, Option.bind_some, s.flag_ofName?_name,
    s.ofName?_name, h, bind, Except.bind, pure, Except.pure]

theorem step_value {s : Setting} {value : Bytes}
    (h : s.takesAnything = true ∨ value.head? ≠ some Argument.dash) :
    step { options := o, pending := some (.setting s none) } value =
      .ok { options := o, pending := some (.setting s (some value)) } := by
  rw [step, takesAnything]
  rcases hs : s.takesAnything with _ | _
  · rw [hs] at h
    simp [hs, Argument.read_plain (h.resolve_left nofun), addPlain]
  · simp [hs, addPlain]

theorem ready_of_value {s : Setting} {value : Bytes} (hput : o.put s value = .ok o') :
    Ready { options := o, pending := some (.setting s (some value)) } o' false := by
  simp only [Ready, settle, hput, bind, Except.bind, pure, Except.pure]

/-- One phrase is read as a whole. -/
theorem Ready.phrase (h : p.Ready o false) {x : Phrase} (hdistinct : x.Distinct)
    (htake : x.take o = .ok o') :
    ∃ p', x.arguments.foldlM step p = .ok p' ∧ p'.Ready o' false := by
  cases x with
  | joined s value =>
    refine ⟨_, ?_, ready_of_settled⟩
    have hargument : Bytes.ofString ("--" ++ s.name ++ "=") ++ value =
        Argument.dash :: Argument.dash ::
          (Bytes.ofString s.name ++ Argument.equals :: value) := by
      rw [String.append_assoc, Argument.ofString_dashes, Bytes.ofString_append]
      simp only [List.cons_append, List.append_assoc]
      rfl
    rw [Phrase.arguments, hargument, List.foldlM_cons, h.step_long (by simp [s.name_ne_nil]),
      Argument.cut_joined s.equals_notMem_name, h.addLong_joined htake]
    rfl
  | apart s value =>
    refine ⟨_, ?_, ready_of_value htake⟩
    rw [Phrase.arguments, List.foldlM_cons, Argument.ofString_dashes, h.step_long s.name_ne_nil,
      Argument.cut_plain s.equals_notMem_name, h.addLong_apart]
    change step _ value >>= pure = _
    rw [step_value hdistinct]
    rfl
  | named f =>
    obtain ⟨p', hp', hready⟩ := h.addFlag htake
    refine ⟨p', ?_, hready⟩
    rw [Phrase.arguments, List.foldlM_cons, Argument.ofString_dashes, h.step_long f.name_ne_nil,
      Argument.cut_plain f.equals_notMem_name, addLong_flag, hp']
    rfl
  | lettered f letter =>
    obtain ⟨p', hp', hready⟩ := h.addFlag htake
    obtain ⟨hread, hletters, hflag⟩ := Flag.read_letter hdistinct
    refine ⟨p', ?_, hready⟩
    have hstep : p.step (Bytes.ofString ("-" ++ letter.toString)) = .ok p' := by
      simp only [step, h.onlyTests, h.takesAnything, hread, hletters, addLetters, hflag, hp']
      rfl
    rw [Phrase.arguments, List.foldlM_cons, hstep]
    rfl
  | test name =>
    obtain ⟨p', hp', hready⟩ := h.addTest name
    obtain rfl := Except.ok.inj htake
    refine ⟨p', ?_, hready⟩
    have hstep : p.step (Bytes.ofString name) = .ok p' := by
      simp only [step, h.onlyTests, h.takesAnything, Argument.read_plain hdistinct]
      exact (h.addPlain _).trans hp'
    rw [Phrase.arguments, List.foldlM_cons, hstep]
    rfl

theorem Ready.phrases (h : p.Ready o false) {phrases : List Phrase}
    (hdistinct : ∀ x ∈ phrases, x.Distinct) (htake : phrases.foldlM Phrase.take o = .ok o') :
    ∃ p', (phrases.flatMap Phrase.arguments).foldlM step p = .ok p' ∧ p'.Ready o' false := by
  induction phrases generalizing p o with
  | nil =>
    obtain rfl := Except.ok.inj htake
    exact ⟨p, rfl, h⟩
  | cons x phrases ih =>
    rw [List.foldlM_cons] at htake
    rcases hfirst : x.take o with refusal | between
    · rw [hfirst] at htake
      cases htake
    rw [hfirst] at htake
    obtain ⟨p₁, hp₁, hready₁⟩ := h.phrase (hdistinct x List.mem_cons_self) hfirst
    obtain ⟨p₂, hp₂, hready₂⟩ :=
      ih hready₁ (fun y hy => hdistinct y (List.mem_cons_of_mem x hy)) htake
    refine ⟨p₂, ?_, hready₂⟩
    rw [List.flatMap_cons, List.foldlM_append, hp₁]
    exact hp₂

theorem Ready.lateTests (h : p.Ready o true) (names : List String) :
    ∃ p', (names.map Bytes.ofString).foldlM step p = .ok p' ∧
      p'.Ready { o with tests := o.tests ++ names } true := by
  induction names generalizing p o with
  | nil => exact ⟨p, rfl, by rw [List.append_nil]; exact h⟩
  | cons name names ih =>
    obtain ⟨p₁, hp₁, hready₁⟩ := h.addTest name
    obtain ⟨p₂, hp₂, hready₂⟩ := ih hready₁
    refine ⟨p₂, ?_, by simpa using hready₂⟩
    have hstep : p.step (Bytes.ofString name) = .ok p₁ := by
      simp only [step, h.onlyTests]
      exact hp₁
    rw [List.map_cons, List.foldlM_cons, hstep]
    exact hp₂

theorem Ready.separator (h : p.Ready o false) :
    p.step (Bytes.ofString "--") = .ok { options := o, onlyTests := true } := by
  have hread : Argument.read (Bytes.ofString "--") = .separator := by decide
  have honly := h.onlyTests
  have hanything := h.takesAnything
  rw [Ready] at h
  simp [step, honly, hanything, hread, h, bind, Except.bind, pure, Except.pure]

end Progress

theorem read_of_ready {arguments : List Bytes} {p : Progress} {o : Options} {late : Bool}
    (hp : arguments.foldlM Progress.step {} = .ok p) (h : p.Ready o late) :
    read arguments = .ok o := by
  rw [Progress.Ready] at h
  simp only [read, hp, h, bind, Except.bind, pure, Except.pure]

/-- `o` lacks of `target` exactly what some phrases give, each thing once. -/
structure Lacks (o target : Options) (phrases : List Phrase) : Prop where
  settings : ∀ s value, (s, value) ∈ phrases.filterMap Phrase.setting? →
    target.text? s = some value ∧ o.text? s = none
  otherSettings : ∀ s, s ∉ (phrases.filterMap Phrase.setting?).map Prod.fst →
    o.text? s = target.text? s
  settingsOnce : ((phrases.filterMap Phrase.setting?).map Prod.fst).Nodup
  flags : ∀ f ∈ phrases.filterMap Phrase.flag?, target.isRaised f = true ∧ o.isRaised f = false
  otherFlags : ∀ f, f ∉ phrases.filterMap Phrase.flag? → o.isRaised f = target.isRaised f
  flagsOnce : (phrases.filterMap Phrase.flag?).Nodup
  tests : o.tests ++ phrases.filterMap Phrase.test? = target.tests

namespace Lacks

variable {o target : Options} {phrases : List Phrase}

theorem eq_target (h : Lacks o target []) : o = target :=
  Options.eq_of_view (by simpa using h.tests) (fun s => h.otherSettings s List.not_mem_nil)
    fun f => h.otherFlags f List.not_mem_nil

theorem take_setting {x : Phrase} {s : Setting} {value : Bytes} (hx : x.setting? = some (s, value))
    (hwritable : target.Writable) (h : Lacks o target (x :: phrases)) :
    ∃ o', x.take o = .ok o' ∧ Lacks o' target phrases := by
  have hflag : x.flag? = none := by cases x <;> first | rfl | cases hx
  have htest : x.test? = none := by cases x <;> first | rfl | cases hx
  have htake : x.take o = o.put s value := by cases x <;> cases hx <;> rfl
  obtain ⟨hsettings, hothers, honce, hflags, hotherFlags, hflagsOnce, htests⟩ := h
  simp only [List.filterMap_cons, hx, hflag, htest, List.map_cons, List.nodup_cons] at *
  obtain ⟨hvalue, hnew⟩ := hsettings s value List.mem_cons_self
  refine ⟨o.copy target s, htake.trans (Options.put_text hwritable hvalue hnew), ?_⟩
  refine ⟨fun s' value' hmem => ?_, fun s' hs' => ?_, honce.2, ?_, ?_, hflagsOnce, ?_⟩
  · have hne : s' ≠ s := fun heq => honce.1 (heq ▸ List.mem_map_of_mem hmem)
    rw [Options.text?_copy, if_neg hne]
    exact hsettings s' value' (List.mem_cons_of_mem _ hmem)
  · rw [Options.text?_copy]
    split
    · next heq => rw [heq]
    · next hne => exact hothers s' (by simp [hne, hs'])
  · simpa only [Options.isRaised_copy] using hflags
  · simpa only [Options.isRaised_copy] using hotherFlags
  · rw [Options.tests_copy]
    exact htests

theorem take_flag {x : Phrase} {f : Flag} (hx : x.flag? = some f)
    (h : Lacks o target (x :: phrases)) :
    ∃ o', x.take o = .ok o' ∧ Lacks o' target phrases := by
  have hsetting : x.setting? = none := by cases x <;> first | rfl | cases hx
  have htest : x.test? = none := by cases x <;> first | rfl | cases hx
  have htake : x.take o = o.raise f := by cases x <;> cases hx <;> rfl
  obtain ⟨hsettings, hothers, honce, hflags, hotherFlags, hflagsOnce, htests⟩ := h
  simp only [List.filterMap_cons, hx, hsetting, htest, List.nodup_cons] at *
  obtain ⟨hraised, hnew⟩ := hflags f List.mem_cons_self
  obtain ⟨hraise, hview⟩ := Options.raise_new hraised hnew
  refine ⟨o.raised f, htake.trans hraise, ?_⟩
  refine ⟨?_, ?_, honce, fun f' hmem => ?_, fun f' hf' => ?_, hflagsOnce.2, ?_⟩
  · simpa only [Options.text?_raised] using hsettings
  · simpa only [Options.text?_raised] using hothers
  · have hne : f' ≠ f := fun heq => hflagsOnce.1 (heq ▸ hmem)
    rw [hview, if_neg hne]
    exact hflags f' (List.mem_cons_of_mem _ hmem)
  · rw [hview]
    split
    · next heq => rw [heq, hraised]
    · next hne => exact hotherFlags f' (by simp [hne, hf'])
  · rw [Options.tests_raised]
    exact htests

theorem take_test {name : String} (h : Lacks o target (.test name :: phrases)) :
    ∃ o', (Phrase.test name).take o = .ok o' ∧ Lacks o' target phrases := by
  obtain ⟨hsettings, hothers, honce, hflags, hotherFlags, hflagsOnce, htests⟩ := h
  refine ⟨{ o with tests := o.tests ++ [name] }, rfl, ?_⟩
  refine ⟨fun s value hmem => ⟨(hsettings s value hmem).1, ?_⟩, fun s hs => ?_, honce,
    fun f hmem => ?_, fun f hf => ?_, hflagsOnce, ?_⟩
  · rw [Options.text?_tests]
    exact (hsettings s value hmem).2
  · rw [Options.text?_tests]
    exact hothers s hs
  · rw [Options.isRaised_tests]
    exact hflags f hmem
  · rw [Options.isRaised_tests]
    exact hotherFlags f hf
  · rw [← htests]
    simp [Phrase.test?]

theorem take_all (hwritable : target.Writable) (h : Lacks o target phrases) :
    phrases.foldlM Phrase.take o = .ok target := by
  induction phrases generalizing o with
  | nil => exact congrArg Except.ok h.eq_target
  | cons x phrases ih =>
    have hfirst : ∃ o', x.take o = .ok o' ∧ Lacks o' target phrases := by
      cases x with
      | joined s value => exact h.take_setting rfl hwritable
      | apart s value => exact h.take_setting rfl hwritable
      | named f => exact h.take_flag rfl
      | lettered f letter => exact h.take_flag rfl
      | test name => exact h.take_test
    obtain ⟨o', ho', hlacks⟩ := hfirst
    rw [List.foldlM_cons, ho']
    exact ih hlacks

end Lacks

theorem lacks_all {target : Options} {phrases : List Phrase}
    (hsettings : (phrases.filterMap Phrase.setting?).Perm target.given)
    (hflags : (phrases.filterMap Phrase.flag?).Perm target.flags)
    (htests : phrases.filterMap Phrase.test? = target.tests) : Lacks {} target phrases where
  settings s value hmem := by
    refine ⟨Options.mem_given.1 (hsettings.mem_iff.1 hmem), ?_⟩
    cases s <;> rfl
  otherSettings s hs := by
    rcases htext : target.text? s with _ | value
    · cases s <;> rfl
    · have hmem := hsettings.mem_iff.2 (Options.mem_given.2 htext)
      exact absurd (List.mem_map_of_mem hmem) hs
  settingsOnce := (hsettings.map Prod.fst).nodup_iff.2 target.nodup_given
  flags f hmem := by
    refine ⟨Options.mem_flags.1 (hflags.mem_iff.1 hmem), ?_⟩
    cases f <;> rfl
  otherFlags f hf := by
    rcases hraised : target.isRaised f with _ | _
    · cases f <;> rfl
    · exact absurd (hflags.mem_iff.2 (Options.mem_flags.2 hraised)) hf
  flagsOnce := hflags.nodup_iff.2 target.nodup_flags
  tests := htests

/-- Options in any order, each written once in any of its ways, with flags and the names of tests
between them, are read as what they were written for. The tests, or the last of them, may follow a
separator, and may then look like options. -/
theorem options_in_any_order (o : Options) (hwritable : o.Writable) (phrases : List Phrase)
    (late : List String) (hdistinct : ∀ x ∈ phrases, x.Distinct)
    (hsettings : (phrases.filterMap Phrase.setting?).Perm o.given)
    (hflags : (phrases.filterMap Phrase.flag?).Perm o.flags)
    (htests : phrases.filterMap Phrase.test? ++ late = o.tests) :
    (late = [] → read (phrases.flatMap Phrase.arguments) = .ok o) ∧
    read (phrases.flatMap Phrase.arguments ++
      Bytes.ofString "--" :: late.map Bytes.ofString) = .ok o := by
  -- The phrases alone say what the options say with the early tests.
  let early : Options := { o with tests := phrases.filterMap Phrase.test? }
  have hearly : early.Writable := hwritable.withTests _
  have hlacks : Lacks {} early phrases :=
    lacks_all (by rw [Options.given_tests]; exact hsettings)
      (by rw [Options.flags_tests]; exact hflags) rfl
  obtain ⟨p, hp, hready⟩ := Progress.ready_of_settled.phrases hdistinct (hlacks.take_all hearly)
  constructor
  · rintro rfl
    rw [List.append_nil] at htests
    have hall : early = o := congrArg (fun tests => { o with tests := tests }) htests
    rw [hall] at hready
    exact read_of_ready hp hready
  · obtain ⟨p', hp', hready'⟩ := Progress.ready_of_settled.lateTests late
    have hall : { early with tests := early.tests ++ late } = o :=
      congrArg (fun tests => { o with tests := tests }) htests
    rw [hall] at hready'
    refine read_of_ready (p := p') ?_ hready'
    rw [List.foldlM_append, hp]
    change (Bytes.ofString "--" :: late.map Bytes.ofString).foldlM Progress.step p = _
    rw [List.foldlM_cons, hready.separator]
    exact hp'

def oddOptions : Options :=
  { tests := ["a", "-x"]
    testDir := some ⟨[0xFF]⟩
    compiler := some "-v"
    timeout := some 5
    verbose := true }

theorem odd_options_read :
    read [Bytes.ofString "--compiler", Bytes.ofString "-v", Bytes.ofString "a",
      Bytes.ofString "--timeout=5", Bytes.ofString "-v", Bytes.ofString "--test-dir", [0xFF],
      Bytes.ofString "--", Bytes.ofString "-x"] = .ok oddOptions := by
  have hwritable : oddOptions.Writable := by
    refine ⟨?_, ?_, nofun⟩
    · intro s value h
      cases s <;> cases h <;> decide
    · rintro n ⟨⟩
      decide
  refine (options_in_any_order oddOptions hwritable
    [.apart .compiler (Bytes.ofString "-v"), .test "a", .joined .timeout (Bytes.ofString "5"),
      .lettered .verbose 'v', .apart .testDir [0xFF]] ["-x"] ?_ ?_ ?_ rfl).2
  · simp only [List.forall_mem_cons, Phrase.Distinct, List.not_mem_nil, false_implies,
      implies_true, and_true]
    decide
  · decide
  · decide

end CommandLine

end Proctor
