import Mathlib.Data.List.TakeWhile
import Proctor.Toml.Statement

/-!
# Values within a text

A value is read from the characters ahead of it, with some fuel and down to some depth. What is read
depends on none of these: a reading that succeeds comes out the same with more fuel, at a greater
depth, and with a line end and any text behind the characters it was given. So a text that is a
value by itself is the same value at the end of any line.
-/

set_option autoImplicit false

namespace Proctor.Toml

def AtLineEnd (t : List Char) : Prop := ∀ c ∈ t.head?, c = '\n'

theorem atLineEnd_nil : AtLineEnd [] := nofun

theorem atLineEnd_cons (rest : List Char) : AtLineEnd ('\n' :: rest) := by
  rintro c ⟨⟩
  rfl

theorem AtLineEnd.cases {t : List Char} (ht : AtLineEnd t) : t = [] ∨ ∃ rest, t = '\n' :: rest := by
  rcases t with _ | ⟨c, rest⟩
  · exact .inl rfl
  · exact .inr ⟨rest, by rw [ht c rfl]⟩

section Lines

variable {t : List Char} (ht : AtLineEnd t)
include ht

theorem AtLineEnd.takeWhile_append {p : Char → Bool} (hp : p '\n' = false) (s : List Char) :
    (s ++ t).takeWhile p = s.takeWhile p := by
  induction s with
  | nil =>
    obtain rfl | ⟨rest, rfl⟩ := ht.cases
    · rfl
    · simp [hp]
  | cons c s ih => simp only [List.cons_append, List.takeWhile_cons, ih]

theorem AtLineEnd.dropWhile_append {p : Char → Bool} (hp : p '\n' = false) (s : List Char) :
    (s ++ t).dropWhile p = s.dropWhile p ++ t := by
  induction s with
  | nil =>
    obtain rfl | ⟨rest, rfl⟩ := ht.cases
    · rfl
    · simp [hp]
  | cons c s ih =>
    simp only [List.cons_append, List.dropWhile_cons, ih]
    split <;> rfl

theorem AtLineEnd.skipSpaces_append (s : List Char) : skipSpaces (s ++ t) = skipSpaces s ++ t :=
  ht.dropWhile_append rfl s

theorem AtLineEnd.comment_append (s : List Char) : comment (s ++ t) = comment s ++ t :=
  ht.dropWhile_append rfl s

/-- What is skipped in front of a character stays the same. A carriage return is not such a
character: with a line end behind it, it would be skipped as well. -/
theorem AtLineEnd.skipLines_append {n m : Nat} {s r : List Char} {c : Char}
    (h : skipLines n s = c :: r) (hc : c ≠ '\r') (hn : s.length ≤ n) (hm : n ≤ m) :
    skipLines m (s ++ t) = c :: (r ++ t) := by
  induction n generalizing s m with
  | zero =>
    rw [List.eq_nil_of_length_eq_zero (Nat.le_zero.1 hn)] at h
    cases h
  | succ n ih =>
    obtain ⟨m, rfl⟩ : ∃ k, m = k + 1 := ⟨m - 1, by omega⟩
    have hlength : (skipSpaces s).length ≤ n + 1 := by
      have hle := (List.dropWhile_suffix isSpace (l := s)).length_le
      rw [skipSpaces]
      omega
    rw [skipLines] at h ⊢
    rw [ht.skipSpaces_append]
    revert h hlength
    generalize skipSpaces s = u
    intro h hlength
    split at h
    next rest => exact ih h (by simpa using hlength) (by omega)
    next rest =>
      have hrest : rest.length ≤ n := by
        simp only [List.length_cons] at hlength
        omega
      exact ih h hrest (by omega)
    next rest =>
      have hrest : (comment rest).length ≤ n := by
        have hle := (List.dropWhile_suffix isText (l := rest)).length_le
        simp only [List.length_cons] at hlength
        rw [comment]
        omega
      simp only [List.cons_append, ht.comment_append]
      exact ih h hrest (by omega)
    next hline hreturn hcomment =>
      subst h
      have hline' : c ≠ '\n' := by
        rintro rfl
        exact hline r rfl
      have hcomment' : c ≠ '#' := by
        rintro rfl
        exact hcomment r rfl
      simp [hline', hcomment', hc]

end Lines

/-! ## Strings -/

theorem basicFrom_append {place : Place} {text s a r : List Char} (t : List Char)
    (h : basicFrom place text s = some (a, r)) :
    basicFrom place text (s ++ t) = some (a, r ++ t) := by
  fun_induction basicFrom place text s with
  | case2 text rest =>
    cases h
    simp [basicFrom]
  | case3 text rest hquote ih => simpa [basicFrom] using ih h
  | case4 text c rest hquote hslash htext ih => simpa [basicFrom, hquote, hslash, htext] using ih h
  | case6 text c rest place text' hstep ih => simpa [basicFrom, hstep] using ih h
  | case8 left n text c rest place text' hstep ih => simpa [basicFrom, hstep] using ih h
  | _ => cases h

theorem literalFrom_append {text s a r : List Char} (t : List Char)
    (h : literalFrom text s = some (a, r)) : literalFrom text (s ++ t) = some (a, r ++ t) := by
  fun_induction literalFrom text s with
  | case2 text rest =>
    cases h
    simp [literalFrom]
  | case3 text c rest hquote htext ih => simpa [literalFrom, hquote, htext] using ih h
  | _ => cases h

/-- A carriage return alone does not close a string that it opens. -/
theorem many_return (quote : Char) : many quote ['\r'] = none := by
  by_cases hquote : '\r' = quote
  · subst hquote
    rfl
  · simp [many, afterOpening, manyFrom, manyStep, openStep, hquote]

theorem afterOpening_append {s : List Char} (hempty : s ≠ []) (hreturn : s ≠ ['\r'])
    (t : List Char) : afterOpening (s ++ t) = afterOpening s ++ t := by
  rcases s with _ | ⟨c, _ | ⟨d, s⟩⟩
  · exact absurd rfl hempty
  · have hc : c ≠ '\r' := fun hc => hreturn (hc ▸ rfl)
    by_cases hline : c = '\n' <;> simp [afterOpening, hline, hc]
  · by_cases hline : c = '\n'
    · simp [afterOpening, hline]
    · by_cases hc : c = '\r' <;> by_cases hd : d = '\n' <;> simp [afterOpening, hline, hc, hd]

section Lines

variable {t : List Char} (ht : AtLineEnd t)
include ht

theorem AtLineEnd.manyFrom_append {quote : Char} (hquote : quote ≠ '\n') {place : Place}
    {text s a r : List Char} (h : manyFrom quote place text s = some (a, r)) :
    manyFrom quote place text (s ++ t) = some (a, r ++ t) := by
  fun_induction manyFrom quote place text s with
  | case1 count text hcount =>
    cases h
    obtain rfl | ⟨rest, rfl⟩ := ht.cases
    · simp [manyFrom, hcount]
    · simp [manyFrom, hcount, hquote.symm]
  | case4 text c rest count hclose =>
    cases h
    simp only [List.cons_append, manyFrom, hclose, if_true]
  | case5 text c rest count hopen place text' hstep ih =>
    rw [hstep] at h
    simp only [List.cons_append, manyFrom, hopen, Bool.false_eq_true, if_false, hstep]
    exact ih h
  | case7 place text c rest place' text' hstep hplace ih =>
    rw [hstep] at h
    cases place with
    | quotes count => exact absurd rfl (hplace count)
    | _ =>
      simp only [List.cons_append, manyFrom, hstep]
      exact ih h
  | case6 text c rest count hopen hstep =>
    rw [hstep] at h
    cases h
  | case8 place text c rest hstep =>
    rw [hstep] at h
    cases h
  | _ => cases h

theorem AtLineEnd.many_append {quote : Char} (hquote : quote ≠ '\n') {s a r : List Char}
    (h : many quote s = some (a, r)) : many quote (s ++ t) = some (a, r ++ t) := by
  have hempty : s ≠ [] := by
    rintro rfl
    cases h
  have hreturn : s ≠ ['\r'] := by
    rintro rfl
    rw [many_return] at h
    cases h
  rw [many] at h ⊢
  rw [afterOpening_append hempty hreturn]
  exact ht.manyFrom_append hquote h

theorem AtLineEnd.string_append {s r : List Char} {v : Value} (h : string s = some (v, r)) :
    string (s ++ t) = some (v, r ++ t) := by
  -- Two quotes that a string of one line begins with do not become three.
  have hthree (quote : Char) (hquote : quote ≠ '\n') {rest : List Char}
      (hrest : ∀ more, rest ≠ quote :: quote :: more) (more : List Char) :
      rest ++ t ≠ quote :: quote :: more := by
    obtain rfl | ⟨later, rfl⟩ := ht.cases
    · rw [List.append_nil]
      exact hrest more
    · rcases rest with _ | ⟨c, _ | ⟨d, rest⟩⟩ <;> grind
  unfold string at h ⊢
  obtain ⟨⟨text, rest⟩, htext, hvalue⟩ := Option.map_eq_some_iff.1 h
  cases hvalue
  refine Option.map_eq_some_iff.2 ⟨(text, r ++ t), ?_, rfl⟩
  split at htext
  next rest => exact ht.many_append (by decide) htext
  next rest => exact ht.many_append (by decide) htext
  next rest hmany =>
    have hrest := hthree '"' (by decide) hmany
    simpa [hrest, basic] using basicFrom_append t htext
  next rest hmany =>
    have hrest := hthree '\'' (by decide) hmany
    simpa [hrest, literal] using literalFrom_append t htext
  next => cases htext

end Lines

/-! ## Keys and plain values -/

theorem simpleKey_bare {s : List Char} (h : s.takeWhile isBare ≠ []) :
    simpleKey s = some (String.ofList (s.takeWhile isBare), s.dropWhile isBare) := by
  rcases s with _ | ⟨c, s⟩
  · exact absurd rfl h
  · have hc : c ≠ '"' := by
      rintro rfl
      exact h rfl
    have hc' : c ≠ '\'' := by
      rintro rfl
      exact h rfl
    simp [simpleKey, hc, hc']

section Lines

variable {t : List Char} (ht : AtLineEnd t)
include ht

theorem AtLineEnd.simpleKey_append {s r : List Char} {k : String}
    (h : simpleKey s = some (k, r)) : simpleKey (s ++ t) = some (k, r ++ t) := by
  by_cases hbare : s.takeWhile isBare = []
  · unfold simpleKey at h
    split at h
    next rest =>
      obtain ⟨⟨text, later⟩, htext, hkey⟩ := Option.map_eq_some_iff.1 h
      cases hkey
      have hlonger : basic (rest ++ t) = some (text, r ++ t) := basicFrom_append t htext
      simp [simpleKey, hlonger]
    next rest =>
      obtain ⟨⟨text, later⟩, htext, hkey⟩ := Option.map_eq_some_iff.1 h
      cases hkey
      have hlonger : literal (rest ++ t) = some (text, r ++ t) := literalFrom_append t htext
      simp [simpleKey, hlonger]
    next =>
      rw [hbare] at h
      cases h
  · have htake : (s ++ t).takeWhile isBare = s.takeWhile isBare := ht.takeWhile_append rfl s
    have hdrop : (s ++ t).dropWhile isBare = s.dropWhile isBare ++ t := ht.dropWhile_append rfl s
    rw [simpleKey_bare hbare] at h
    cases h
    rw [simpleKey_bare (by rwa [htake]), htake, hdrop]

theorem AtLineEnd.keyParts_append {fuel : Nat} {s r : List Char} {ks : List String}
    (h : keyParts fuel s = some (ks, r)) : keyParts fuel (s ++ t) = some (ks, r ++ t) := by
  induction fuel generalizing s ks with
  | zero => cases h
  | succ fuel ih =>
    rw [keyParts] at h ⊢
    obtain ⟨⟨part, rest⟩, hpart, h⟩ := Option.bind_eq_some_iff.1 h
    rw [ht.simpleKey_append hpart]
    simp only [Option.bind_eq_bind, Option.bind_some, ht.skipSpaces_append] at h ⊢
    split at h
    next rest hdot =>
      obtain ⟨⟨parts, later⟩, hparts, h⟩ := Option.bind_eq_some_iff.1 h
      cases h
      rw [hdot, List.cons_append]
      simp only [ht.skipSpaces_append, ih hparts, Option.bind_some]
      rfl
    next hdot =>
      cases h
      split
      next later hlater =>
        obtain rfl | ⟨more, rfl⟩ := ht.cases
        · rw [List.append_nil] at hlater
          exact absurd hlater (hdot later)
        · rcases hskip : skipSpaces rest with _ | ⟨c, u⟩
          · rw [hskip] at hlater
            cases hlater
          · rw [hskip] at hlater
            cases hlater
            exact absurd hskip (hdot u)
      next => rfl

theorem AtLineEnd.scalar_append {s r : List Char} {v : Value} (h : scalar s = some (v, r)) :
    scalar (s ++ t) = some (v, r ++ t) := by
  have htake (u : List Char) : (u ++ t).takeWhile isScalarChar = u.takeWhile isScalarChar :=
    ht.takeWhile_append rfl u
  have hdrop (u : List Char) : (u ++ t).dropWhile isScalarChar = u.dropWhile isScalarChar ++ t :=
    ht.dropWhile_append rfl u
  unfold scalar at h ⊢
  simp only [htake, hdrop] at h ⊢
  revert h
  generalize s.takeWhile isScalarChar = first
  generalize s.dropWhile isScalarChar = ahead
  intro h
  have hplain (h : (scalar? first).map (fun value => (value, ahead)) = some (v, r)) :
      (scalar? first).map (fun value => (value, ahead ++ t)) = some (v, r ++ t) := by
    obtain ⟨value, hvalue, hv⟩ := Option.map_eq_some_iff.1 h
    cases hv
    rw [hvalue, Option.map_some]
  -- Only a line end can come after a date and a space that the text ends with.
  have hafter {c : Char} {later : List Char} (hahead : ahead ++ t = ' ' :: c :: later) :
      (∃ u, ahead = ' ' :: c :: u) ∨ c = '\n' := by
    rcases ahead with _ | ⟨a, _ | ⟨b, u⟩⟩
    · exact absurd (ht ' ' (by rw [← List.nil_append t, hahead]; rfl)) (by decide)
    · cases hahead
      exact .inr (ht c rfl)
    · cases hahead
      exact .inl ⟨u, rfl⟩
  split at h
  next c later hdate =>
    simp only [hdate, List.cons_append]
    split_ifs at h ⊢ with hdigit
    · obtain ⟨value, hvalue, hv⟩ := Option.map_eq_some_iff.1 h
      cases hv
      have htake' := htake (c :: later)
      have hdrop' := hdrop (c :: later)
      simp only [List.cons_append] at htake' hdrop'
      simp only [List.tail_cons] at hvalue ⊢
      rw [htake', hdrop', hvalue, Option.map_some]
    · exact hplain h
  next hnone =>
    split
    next c later hdate hahead =>
      obtain ⟨u, hu⟩ | rfl := hafter hahead
      · exact absurd hu (hnone c u hdate)
      · exact hplain h
    next => exact hplain h

end Lines

/-! ## Values -/

theorem ne_of_holds {p : Char → Bool} {c d : Char} (hc : p c) (hd : p d = false) : c ≠ d := by
  rintro rfl
  rw [hd] at hc
  cases hc

def isStart (c : Char) : Bool := c ∉ [' ', '\t', '\n', '\r', '#']

theorem isStart_of {p : Char → Bool} {c : Char} (h : p c)
    (hp : [' ', '\t', '\n', '\r', '#'].any p = false) : isStart c := by
  refine decide_eq_true fun hc => ?_
  rw [List.any_eq_false] at hp
  exact hp c hc h

theorem scalar_head {s : List Char} {x : Value × List Char} (h : scalar s = some x) :
    ∃ c rest, s = c :: rest ∧ isScalarChar c := by
  rcases s with _ | ⟨c, rest⟩
  · cases h
  · refine ⟨c, rest, rfl, ?_⟩
    by_contra hc
    have hnone : scalar (c :: rest) = none := by
      simp only [scalar, List.takeWhile_cons, hc]
      rfl
    rw [hnone] at h
    cases h

theorem value_scalar (fuel depth : Nat) {c : Char} (hc : isScalarChar c) (rest : List Char) :
    value (fuel + 1) depth (c :: rest) = scalar (c :: rest) := by
  rw [value]
  · exact fun _ h => ne_of_holds hc rfl (List.cons.inj h).1
  · exact fun _ h => ne_of_holds hc rfl (List.cons.inj h).1
  · exact fun _ h => ne_of_holds hc rfl (List.cons.inj h).1
  · exact fun _ h => ne_of_holds hc rfl (List.cons.inj h).1

theorem value_start {fuel depth : Nat} {s : List Char} {x : Value × List Char}
    (h : value fuel depth s = some x) : ∃ c rest, s = c :: rest ∧ isStart c := by
  rcases fuel with _ | fuel
  · cases h
  · unfold value at h
    split at h
    next rest => exact ⟨_, rest, rfl, rfl⟩
    next rest => exact ⟨_, rest, rfl, rfl⟩
    next rest => exact ⟨_, rest, rfl, rfl⟩
    next rest => exact ⟨_, rest, rfl, rfl⟩
    next =>
      obtain ⟨c, rest, rfl, hc⟩ := scalar_head h
      exact ⟨c, rest, rfl, isStart_of hc rfl⟩

abbrev skipAll (s : List Char) : List Char := skipLines s.length s

theorem value_closing (fuel depth : Nat) (rest : List Char) :
    value fuel depth (']' :: rest) = none := by
  rcases fuel with _ | fuel
  · rfl
  · simp [value, scalar, isScalarChar]
    rfl

theorem items_eq_some_iff {fuel depth : Nat} {s r : List Char} {vs : List Value} :
    items (fuel + 1) depth s = some (vs, r) ↔
      (s = ']' :: r ∧ vs = []) ∨
      ∃ v rest, value fuel depth s = some (v, rest) ∧
        ((skipAll rest = ']' :: r ∧ vs = [v]) ∨
          ∃ u more, skipAll rest = ',' :: u ∧ items fuel depth (skipAll u) = some (more, r) ∧
            vs = v :: more) := by
  by_cases hclosing : ∃ rest, s = ']' :: rest
  · obtain ⟨rest, rfl⟩ := hclosing
    simp [items, value_closing, and_comm, eq_comm]
  · have hs : ∀ rest, s = ']' :: rest → False := fun rest hrest => hclosing ⟨rest, hrest⟩
    rw [items]
    constructor
    · intro h
      obtain ⟨⟨v, rest⟩, hv, h⟩ := Option.bind_eq_some_iff.1 h
      refine .inr ⟨v, rest, hv, ?_⟩
      simp only at h
      split at h
      next u hu =>
        obtain ⟨⟨more, later⟩, hmore, h⟩ := Option.bind_eq_some_iff.1 h
        cases h
        exact .inr ⟨u, more, hu, hmore, rfl⟩
      next u hu =>
        cases h
        exact .inl ⟨hu, rfl⟩
      next => cases h
    · rintro (⟨hclose, -⟩ | ⟨v, rest, hv, ⟨hclose, rfl⟩ | ⟨u, more, hu, hmore, rfl⟩⟩)
      · exact absurd hclose (hs r)
      · simp [hv, hclose]
      · simp [hv, hu, hmore]
    · exact hs

theorem keyParts_closing (fuel : Nat) (rest : List Char) :
    keyParts fuel ('\x7d' :: rest) = none := by
  rcases fuel with _ | fuel
  · rfl
  · simp [keyParts, simpleKey, isBare]

theorem pairs_eq_some_iff {fuel depth : Nat} {s r : List Char}
    {ps : List (List String × Value)} :
    pairs (fuel + 1) depth s = some (ps, r) ↔
      (s = '\x7d' :: r ∧ ps = []) ∨
      ∃ ks afterKey u v rest, key s = some (ks, afterKey) ∧ skipAll afterKey = '=' :: u ∧
        value fuel depth (skipAll u) = some (v, rest) ∧
        ((skipAll rest = '\x7d' :: r ∧ ps = [(ks, v)]) ∨
          ∃ w more, skipAll rest = ',' :: w ∧ pairs fuel depth (skipAll w) = some (more, r) ∧
            ps = (ks, v) :: more) := by
  by_cases hclosing : ∃ rest, s = '\x7d' :: rest
  · obtain ⟨rest, rfl⟩ := hclosing
    simp [pairs, key, keyParts_closing, and_comm, eq_comm]
  · have hs : ∀ rest, s = '\x7d' :: rest → False := fun rest hrest => hclosing ⟨rest, hrest⟩
    rw [pairs]
    constructor
    · intro h
      obtain ⟨⟨ks, afterKey⟩, hks, h⟩ := Option.bind_eq_some_iff.1 h
      simp only at h
      split at h
      next u hu =>
        obtain ⟨⟨v, rest⟩, hv, h⟩ := Option.bind_eq_some_iff.1 h
        refine .inr ⟨ks, afterKey, u, v, rest, hks, hu, hv, ?_⟩
        simp only at h
        split at h
        next w hw =>
          obtain ⟨⟨more, later⟩, hmore, h⟩ := Option.bind_eq_some_iff.1 h
          cases h
          exact .inr ⟨w, more, hw, hmore, rfl⟩
        next w hw =>
          cases h
          exact .inl ⟨hw, rfl⟩
        next => cases h
      next => cases h
    · rintro (⟨hclose, -⟩ | ⟨ks, afterKey, u, v, rest, hks, hu, hv,
        ⟨hclose, rfl⟩ | ⟨w, more, hw, hmore, rfl⟩⟩)
      · exact absurd hclose (hs r)
      · simp [hks, hu, hv, hclose]
      · simp [hks, hu, hv, hw, hmore]
    · exact hs

theorem simpleKey_start {s : List Char} {x : String × List Char} (h : simpleKey s = some x) :
    ∃ c rest, s = c :: rest ∧ isStart c := by
  by_cases hbare : s.takeWhile isBare = []
  · unfold simpleKey at h
    split at h
    next rest => exact ⟨_, rest, rfl, rfl⟩
    next rest => exact ⟨_, rest, rfl, rfl⟩
    next =>
      rw [hbare] at h
      cases h
  · rcases s with _ | ⟨c, rest⟩
    · exact absurd rfl hbare
    · refine ⟨c, rest, rfl, ?_⟩
      have hc : isBare c := by
        by_contra hc
        simp [hc] at hbare
      exact isStart_of hc rfl

theorem key_start {s : List Char} {x : List String × List Char} (h : key s = some x) :
    ∃ c rest, s = c :: rest ∧ isStart c := by
  rw [key, depthLimit, keyParts] at h
  obtain ⟨part, hpart, -⟩ := Option.bind_eq_some_iff.1 h
  exact simpleKey_start hpart

theorem items_start {fuel depth : Nat} {s : List Char} {x : List Value × List Char}
    (h : items fuel depth s = some x) : ∃ c rest, s = c :: rest ∧ isStart c := by
  rcases fuel with _ | fuel
  · cases h
  · obtain ⟨rfl, -⟩ | ⟨v, rest, hv, -⟩ := items_eq_some_iff.1 h
    · exact ⟨_, _, rfl, rfl⟩
    · exact value_start hv

theorem pairs_start {fuel depth : Nat} {s : List Char}
    {x : List (List String × Value) × List Char} (h : pairs fuel depth s = some x) :
    ∃ c rest, s = c :: rest ∧ isStart c := by
  rcases fuel with _ | fuel
  · cases h
  · obtain ⟨rfl, -⟩ | ⟨ks, afterKey, u, v, rest, hks, -⟩ := pairs_eq_some_iff.1 h
    · exact ⟨_, _, rfl, rfl⟩
    · exact key_start hks

section Lines

variable {t : List Char} (ht : AtLineEnd t)
include ht

theorem AtLineEnd.skipAll_cons {s r : List Char} {c : Char} (h : skipAll s = c :: r)
    (hc : isStart c) : skipAll (s ++ t) = c :: (r ++ t) :=
  ht.skipLines_append h (ne_of_holds hc rfl) le_rfl (by simp)

theorem AtLineEnd.skipAll_append {s : List Char}
    (h : ∃ c rest, skipAll s = c :: rest ∧ isStart c) : skipAll (s ++ t) = skipAll s ++ t := by
  obtain ⟨c, rest, hskip, hc⟩ := h
  rw [ht.skipAll_cons hskip hc, hskip]
  rfl

end Lines

/-- Readings with some fuel stay the same with other fuel, at a greater depth, and with `t` behind
the characters. -/
structure Steady (t : List Char) (fuel fuel' : Nat) : Prop where
  value : ∀ {depth depth' s v r}, depth ≤ depth' → value fuel depth s = some (v, r) →
    value fuel' depth' (s ++ t) = some (v, r ++ t)
  items : ∀ {depth depth' s vs r}, depth ≤ depth' → items fuel depth s = some (vs, r) →
    items fuel' depth' (s ++ t) = some (vs, r ++ t)
  pairs : ∀ {depth depth' s ps r}, depth ≤ depth' → pairs fuel depth s = some (ps, r) →
    pairs fuel' depth' (s ++ t) = some (ps, r ++ t)

namespace Steady

variable {t : List Char} {fuel fuel' depth depth' : Nat} {s r : List Char}

theorem value_succ (h : Steady t fuel fuel') (ht : AtLineEnd t) (hdepth : depth ≤ depth')
    {v : Value} (hread : Toml.value (fuel + 1) depth s = some (v, r)) :
    Toml.value (fuel' + 1) depth' (s ++ t) = some (v, r ++ t) := by
  unfold Toml.value at hread
  split at hread
  next rest =>
    split_ifs at hread with hzero
    obtain ⟨⟨vs, later⟩, hvs, hv⟩ := Option.map_eq_some_iff.1 hread
    cases hv
    have hlonger := h.items (Nat.sub_le_sub_right hdepth 1) hvs
    rw [← ht.skipAll_append (items_start hvs)] at hlonger
    rw [List.cons_append, Toml.value, if_neg (by omega), hlonger]
    rfl
  next rest =>
    split_ifs at hread with hzero
    obtain ⟨⟨ps, later⟩, hps, hread⟩ := Option.bind_eq_some_iff.1 hread
    obtain ⟨table, htable, hread⟩ := Option.bind_eq_some_iff.1 hread
    cases hread
    have hlonger := h.pairs (Nat.sub_le_sub_right hdepth 1) hps
    rw [← ht.skipAll_append (pairs_start hps)] at hlonger
    rw [List.cons_append, Toml.value, if_neg (by omega), hlonger]
    simp [htable]
  next rest => exact ht.string_append hread
  next rest => exact ht.string_append hread
  next =>
    obtain ⟨c, rest, rfl, hc⟩ := scalar_head hread
    rw [List.cons_append, value_scalar fuel' depth' hc]
    exact ht.scalar_append hread

theorem items_succ (h : Steady t fuel fuel') (ht : AtLineEnd t) (hdepth : depth ≤ depth')
    {vs : List Value} (hread : Toml.items (fuel + 1) depth s = some (vs, r)) :
    Toml.items (fuel' + 1) depth' (s ++ t) = some (vs, r ++ t) := by
  rw [items_eq_some_iff] at hread ⊢
  obtain ⟨rfl, rfl⟩ | ⟨v, rest, hv, hmore⟩ := hread
  · exact .inl ⟨rfl, rfl⟩
  · refine .inr ⟨v, rest ++ t, h.value hdepth hv, ?_⟩
    obtain ⟨hclose, rfl⟩ | ⟨u, more, hcomma, hmore, rfl⟩ := hmore
    · exact .inl ⟨ht.skipAll_cons hclose rfl, rfl⟩
    · refine .inr ⟨u ++ t, more, ht.skipAll_cons hcomma rfl, ?_, rfl⟩
      rw [ht.skipAll_append (items_start hmore)]
      exact h.items hdepth hmore

theorem pairs_succ (h : Steady t fuel fuel') (ht : AtLineEnd t) (hdepth : depth ≤ depth')
    {ps : List (List String × Value)} (hread : Toml.pairs (fuel + 1) depth s = some (ps, r)) :
    Toml.pairs (fuel' + 1) depth' (s ++ t) = some (ps, r ++ t) := by
  rw [pairs_eq_some_iff] at hread ⊢
  obtain ⟨rfl, rfl⟩ | ⟨ks, afterKey, u, v, rest, hks, hequals, hv, hmore⟩ := hread
  · exact .inl ⟨rfl, rfl⟩
  · refine .inr ⟨ks, afterKey ++ t, u ++ t, v, rest ++ t, ht.keyParts_append hks,
      ht.skipAll_cons hequals rfl, ?_, ?_⟩
    · rw [ht.skipAll_append (value_start hv)]
      exact h.value hdepth hv
    · obtain ⟨hclose, rfl⟩ | ⟨w, more, hcomma, hmore, rfl⟩ := hmore
      · exact .inl ⟨ht.skipAll_cons hclose rfl, rfl⟩
      · refine .inr ⟨w ++ t, more, ht.skipAll_cons hcomma rfl, ?_, rfl⟩
        rw [ht.skipAll_append (pairs_start hmore)]
        exact h.pairs hdepth hmore

end Steady

theorem AtLineEnd.steady {t : List Char} (ht : AtLineEnd t) {fuel fuel' : Nat}
    (hfuel : fuel ≤ fuel') : Steady t fuel fuel' := by
  -- The three readers call each other with less fuel, so they are steady together.
  induction fuel generalizing fuel' with
  | zero => exact ⟨fun _ h => (nomatch h), fun _ h => (nomatch h), fun _ h => (nomatch h)⟩
  | succ fuel ih =>
    obtain ⟨fuel', rfl⟩ : ∃ k, fuel' = k + 1 := ⟨fuel' - 1, by omega⟩
    have h := ih (Nat.le_of_succ_le_succ hfuel)
    exact ⟨fun hdepth => h.value_succ ht hdepth, fun hdepth => h.items_succ ht hdepth,
      fun hdepth => h.pairs_succ ht hdepth⟩

/-- The text is a value from its first character to its last. How deep it nests does not matter. -/
def IsValue (text : List Char) (v : Value) : Prop :=
  ∃ fuel depth, value fuel depth text = some (v, [])

def Fits (text : List Char) (v : Value) : Prop :=
  value (2 * text.length + 2) depthLimit text = some (v, [])

theorem Fits.isValue {text : List Char} {v : Value} (h : Fits text v) : IsValue text v :=
  ⟨_, _, h⟩

theorem IsValue.start {text : List Char} {v : Value} (h : IsValue text v) :
    ∃ c rest, text = c :: rest ∧ isStart c := by
  obtain ⟨fuel, depth, hread⟩ := h
  exact value_start hread

theorem Fits.value_line {text : List Char} {v : Value} (h : Fits text v) {fuel : Nat}
    (hfuel : 2 * text.length + 2 ≤ fuel) (rest : List Char) :
    value fuel depthLimit (text ++ '\n' :: rest) = some (v, '\n' :: rest) :=
  ((atLineEnd_cons rest).steady hfuel).value le_rfl h

theorem IsValue.value_line {text : List Char} {v : Value} (h : IsValue text v) {fuel depth : Nat}
    {rest : List Char} {x : Value × List Char}
    (hread : value fuel depth (text ++ '\n' :: rest) = some x) : x = (v, '\n' :: rest) := by
  obtain ⟨fuel', depth', htext⟩ := h
  -- With fuel and depth for both readings, the two come out the same.
  have hline := ((atLineEnd_cons rest).steady (Nat.le_max_right fuel fuel')).value
    (Nat.le_max_right depth depth') htext
  have hmore := (atLineEnd_nil.steady (Nat.le_max_left fuel fuel')).value
    (Nat.le_max_left depth depth') hread
  rw [List.append_nil, hline] at hmore
  rw [List.append_nil] at hmore
  exact (Option.some.inj hmore).symm

end Proctor.Toml
