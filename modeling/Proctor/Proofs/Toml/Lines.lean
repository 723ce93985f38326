import Mathlib.Data.List.Nodup
import Proctor.Proofs.Toml.Literals
import Proctor.Toml.Document

/-!
# Documents in lines

Lines that each give a value to a key, and then perhaps the header of a table and lines that belong
to it. Such a text says what its lines say one after the other, whatever their values are; it is no
document exactly if a key comes twice among the lines at the top or among those of the table. A line
whose value is nested too deep to be read can only spoil a document, never change what it says.
-/

set_option autoImplicit false

namespace Proctor.Toml

def IsBareKey (k : String) : Prop := k.toList ≠ [] ∧ k.toList.all isBare

instance (k : String) : Decidable (IsBareKey k) :=
  inferInstanceAs (Decidable (_ ∧ _))

structure Line where
  key : String
  text : List Char
  value : Value
  bare : IsBareKey key
  isValue : IsValue text value

namespace Line

def chars (l : Line) : List Char :=
  l.key.toList ++ ' ' :: '=' :: ' ' :: (l.text ++ ['\n'])

def statement (l : Line) : Statement := .pair [l.key] l.value

def entry (l : Line) : String × Value := (l.key, l.value)

def ofLiteral (key : String) (bare : IsBareKey key) (literal : Literal) : Line where
  key := key
  text := literal.render
  value := literal.value
  bare := bare
  isValue := literal.fits.isValue

end Line

def headerLine (name : String) : List Char := '[' :: (name.toList ++ [']', '\n'])

/-! ## Reading one line -/

theorem key_bare {k : String} (hk : IsBareKey k) {rest : List Char}
    (hrest : ∀ c ∈ rest.head?, isBare c = false) (hdot : (skipSpaces rest).head? ≠ some '.') :
    key (k.toList ++ rest) = some ([k], skipSpaces rest) := by
  have htake : (k.toList ++ rest).takeWhile isBare = k.toList := by
    rw [List.takeWhile_append_of_pos (List.all_eq_true.1 hk.2)]
    rcases rest with _ | ⟨c, rest⟩
    · simp
    · simp [hrest c rfl]
  have hdrop : (k.toList ++ rest).dropWhile isBare = rest := by
    rw [List.dropWhile_append_of_pos (List.all_eq_true.1 hk.2)]
    rcases rest with _ | ⟨c, rest⟩
    · rfl
    · simp [hrest c rfl]
  have hsimple : simpleKey (k.toList ++ rest) = some (k, rest) := by
    rw [simpleKey_bare (by rw [htake]; exact hk.1), htake, hdrop, String.ofList_toList]
  rw [key, depthLimit, keyParts, hsimple]
  simp only [Option.bind_eq_bind, Option.bind_some]
  split
  next later hlater => exact absurd (by rw [hlater]; rfl) hdot
  next => rfl

theorem bare_head {k : String} (hk : IsBareKey k) : ∃ c rest, k.toList = c :: rest ∧ isBare c := by
  rcases hlist : k.toList with _ | ⟨c, rest⟩
  · exact absurd hlist hk.1
  · exact ⟨c, rest, rfl, List.all_eq_true.1 hk.2 c (by rw [hlist]; exact List.mem_cons_self)⟩

theorem Line.statement_chars (l : Line) (rest : List Char) :
    Toml.statement (l.chars ++ rest) =
      (Toml.value (2 * (l.text ++ '\n' :: rest).length + 2) depthLimit
        (l.text ++ '\n' :: rest)).bind fun x =>
          (lineEnd x.2).map fun rest => (.pair [l.key] x.1, rest) := by
  obtain ⟨c, text, htext, hc⟩ := l.isValue.start
  have hskip : skipSpaces (' ' :: (l.text ++ '\n' :: rest)) = l.text ++ '\n' :: rest := by
    change skipSpaces (l.text ++ '\n' :: rest) = l.text ++ '\n' :: rest
    exact skipSpaces_of_start ⟨c, text ++ '\n' :: rest, by rw [htext]; rfl, hc⟩
  have hkey : Toml.key (l.key.toList ++ ' ' :: '=' :: ' ' :: (l.text ++ '\n' :: rest)) =
      some ([l.key], '=' :: ' ' :: (l.text ++ '\n' :: rest)) :=
    key_bare l.bare (by rintro c ⟨⟩; rfl) nofun
  have hchars : l.chars ++ rest =
      l.key.toList ++ ' ' :: '=' :: ' ' :: (l.text ++ '\n' :: rest) := by
    simp [chars]
  obtain ⟨d, later, hlist, hd⟩ := bare_head l.bare
  have hbracket : d ≠ '[' := ne_of_holds hd rfl
  rw [hchars, Toml.statement, hkey]
  · simp only [Option.bind_eq_bind, Option.bind_some, hskip]
  · intro more hmore
    rw [hlist] at hmore
    exact hbracket (List.cons.inj hmore).1
  · intro more hmore
    rw [hlist] at hmore
    exact hbracket (List.cons.inj hmore).1

/-- Characters that begin with a bracket or a key, and are read as a certain statement if they are
read at all, whatever follows them. -/
structure Spells (chars : List Char) (st : Statement) : Prop where
  start : ∃ c rest, chars = c :: rest ∧ (c = '[' ∨ isBare c)
  only : ∀ rest x, statement (chars ++ rest) = some x → x = (st, rest)

structure Reads (chars : List Char) (st : Statement) : Prop extends Spells chars st where
  read : ∀ rest, statement (chars ++ rest) = some (st, rest)

theorem Line.spells (l : Line) : Spells l.chars l.statement where
  start := by
    obtain ⟨c, rest, hlist, hc⟩ := bare_head l.bare
    exact ⟨c, _, by rw [chars, hlist]; rfl, .inr hc⟩
  only rest x h := by
    rw [l.statement_chars] at h
    obtain ⟨y, hy, h⟩ := Option.bind_eq_some_iff.1 h
    rw [l.isValue.value_line hy] at h
    exact (Option.some.inj h).symm

theorem Line.reads (l : Line) (hfits : Fits l.text l.value) : Reads l.chars l.statement where
  toSpells := l.spells
  read rest := by
    rw [l.statement_chars, hfits.value_line (by rw [List.length_append]; omega),
      Option.bind_some]
    rfl

theorem statement_headerLine {name : String} (hname : IsBareKey name) (rest : List Char) :
    statement (headerLine name ++ rest) = some (.header [name], rest) := by
  have hkey : key (name.toList ++ ']' :: '\n' :: rest) = some ([name], ']' :: '\n' :: rest) :=
    key_bare hname (by rintro c ⟨⟩; rfl) nofun
  obtain ⟨c, later, hlist, hc⟩ := bare_head hname
  have hskip : skipSpaces (name.toList ++ ']' :: '\n' :: rest) =
      name.toList ++ ']' :: '\n' :: rest :=
    skipSpaces_of_start ⟨c, _, by rw [hlist]; rfl, isStart_of hc rfl⟩
  have hchars : headerLine name ++ rest = '[' :: (name.toList ++ ']' :: '\n' :: rest) := by
    simp [headerLine]
  rw [hchars, statement, hskip, hkey]
  · rfl
  · intro more hmore
    rw [hlist] at hmore
    exact ne_of_holds hc rfl (List.cons.inj hmore).1

theorem reads_headerLine {name : String} (hname : IsBareKey name) :
    Reads (headerLine name) (.header [name]) where
  start := ⟨_, _, rfl, .inl rfl⟩
  only rest x h := by
    rw [statement_headerLine hname] at h
    exact (Option.some.inj h).symm
  read := statement_headerLine hname

/-! ## Reading all lines -/

theorem Spells.skipAll {chars : List Char} {st : Statement} (h : Spells chars st)
    (rest : List Char) : skipAll (chars ++ rest) = chars ++ rest := by
  obtain ⟨c, later, rfl, hc⟩ := h.start
  have hstart : isStart c := by
    obtain rfl | hc := hc
    · rfl
    · exact isStart_of hc rfl
  have hcons : ∃ d more, c :: later ++ rest = d :: more ∧ isStart d := ⟨c, _, rfl, hstart⟩
  exact skipAll_of_start (skipSpaces_of_start hcons) hcons

theorem Spells.statements_append {chars : List Char} {st : Statement} (h : Spells chars st)
    (fuel : Nat) (rest : List Char) :
    statements (fuel + 1) (chars ++ rest) =
      (statement (chars ++ rest)).bind fun x => (statements fuel x.2).map (x.1 :: ·) := by
  have hskip : skipLines (chars ++ rest).length (chars ++ rest) = chars ++ rest := h.skipAll rest
  obtain ⟨c, later, rfl, -⟩ := h.start
  rw [statements, hskip]
  simp only [List.cons_append, Option.bind_eq_bind, Option.map_eq_bind]
  rfl

section Pieces

variable {ps : List (List Char × Statement)}

theorem statements_only (hps : ∀ p ∈ ps, Spells p.1 p.2)
    {fuel : Nat} {sts : List Statement}
    (h : statements fuel (ps.flatMap Prod.fst) = some sts) : sts = ps.map Prod.snd := by
  induction ps generalizing fuel sts with
  | nil =>
    rcases fuel with _ | fuel
    · cases h
    · exact (Option.some.inj h).symm
  | cons p ps ih =>
    have hp := hps p List.mem_cons_self
    rcases fuel with _ | fuel
    · cases h
    · rw [List.flatMap_cons, hp.statements_append] at h
      obtain ⟨x, hx, h⟩ := Option.bind_eq_some_iff.1 h
      rw [hp.only _ x hx] at h
      obtain ⟨more, hmore, rfl⟩ := Option.map_eq_some_iff.1 h
      rw [ih (fun q hq => hps q (List.mem_cons_of_mem p hq)) hmore]
      rfl

theorem statements_of_reads (hps : ∀ p ∈ ps, Reads p.1 p.2) {fuel : Nat}
    (hfuel : ps.length < fuel) :
    statements fuel (ps.flatMap Prod.fst) = some (ps.map Prod.snd) := by
  induction ps generalizing fuel with
  | nil =>
    obtain ⟨fuel, rfl⟩ : ∃ k, fuel = k + 1 := ⟨fuel - 1, by omega⟩
    rfl
  | cons p ps ih =>
    obtain ⟨fuel, rfl⟩ : ∃ k, fuel = k + 1 := ⟨fuel - 1, by omega⟩
    have hp := hps p List.mem_cons_self
    rw [List.flatMap_cons, hp.statements_append, hp.read, Option.bind_some,
      ih (fun q hq => hps q (List.mem_cons_of_mem p hq)) (by simpa using hfuel)]
    rfl

theorem length_le_of_spells (hps : ∀ p ∈ ps, Spells p.1 p.2) :
    ps.length ≤ (ps.flatMap Prod.fst).length := by
  induction ps with
  | nil => exact le_rfl
  | cons p ps ih =>
    obtain ⟨c, rest, hchars, -⟩ := (hps p List.mem_cons_self).start
    have hle := ih fun q hq => hps q (List.mem_cons_of_mem p hq)
    rw [List.flatMap_cons, List.length_append, hchars, List.length_cons, List.length_cons]
    omega

theorem dropMark_of_spells (hps : ∀ p ∈ ps, Spells p.1 p.2) :
    dropMark (ps.flatMap Prod.fst) = ps.flatMap Prod.fst := by
  rcases ps with _ | ⟨p, ps⟩
  · rfl
  · obtain ⟨c, rest, hchars, hc⟩ := (hps p List.mem_cons_self).start
    have hmark : c.toNat ≠ 0xFEFF := by
      intro hmark
      have hc' : c = Char.ofNat 0xFEFF := by rw [← hmark, Char.ofNat_toNat]
      subst hc'
      obtain hc | hc := hc <;> cases hc
    rw [List.flatMap_cons, hchars, List.cons_append, dropMark, if_neg hmark]

def build (sts : List Statement) : Option Entries := do
  let draft ← sts.foldlM Draft.add {}
  return draft.entries

theorem parse?_eq (text : List Char) :
    parse? text = (statements ((dropMark text).length + 1) (dropMark text)).bind build :=
  rfl

theorem parse?_only (hps : ∀ p ∈ ps, Spells p.1 p.2) :
    parse? (ps.flatMap Prod.fst) = none ∨
      parse? (ps.flatMap Prod.fst) = build (ps.map Prod.snd) := by
  rw [parse?_eq, dropMark_of_spells hps]
  rcases hsts : statements ((ps.flatMap Prod.fst).length + 1) (ps.flatMap Prod.fst) with _ | sts
  · exact .inl rfl
  · rw [statements_only hps hsts]
    exact .inr rfl

theorem parse?_of_reads (hps : ∀ p ∈ ps, Reads p.1 p.2) :
    parse? (ps.flatMap Prod.fst) = build (ps.map Prod.snd) := by
  have hspells : ∀ p ∈ ps, Spells p.1 p.2 := fun p hp => (hps p hp).toSpells
  rw [parse?_eq, dropMark_of_spells hspells,
    statements_of_reads hps (Nat.lt_succ_of_le (length_le_of_spells hspells)), Option.bind_some]

end Pieces

/-! ## What the lines build -/

theorem get?_eq_none_iff {entries : Entries} {k : String} :
    Entries.get? entries k = none ↔ k ∉ entries.map Prod.fst := by
  rw [Entries.get?, List.lookup_eq_none_iff]
  constructor
  · intro h hk
    obtain ⟨e, he, rfl⟩ := List.mem_map.1 hk
    simpa using h e he
  · rintro hk e he
    have hne : k ≠ e.1 := by
      rintro rfl
      exact hk (List.mem_map_of_mem he)
    simpa using hne

theorem addNew_eq (k : String) (v : Value) (entries : Entries) :
    addNew k v entries = if k ∈ entries.map Prod.fst then none else some (entries ++ [(k, v)]) := by
  rw [addNew]
  split
  next hnone => rw [if_neg (get?_eq_none_iff.1 hnone)]
  next w hsome =>
    rw [if_pos]
    by_contra hk
    rw [get?_eq_none_iff.2 hk] at hsome
    cases hsome

section Last

variable {entries : Entries} {k : String} (hk : k ∉ entries.map Prod.fst)
include hk

theorem get?_append_last (v : Value) : Entries.get? (entries ++ [(k, v)]) k = some v := by
  have hnone : List.lookup k entries = none := get?_eq_none_iff.2 hk
  rw [Entries.get?, List.lookup_append, hnone, Option.none_or, List.lookup_cons_self]

theorem set_append_last (v w : Value) :
    Entries.set (entries ++ [(k, v)]) k w = entries ++ [(k, w)] := by
  have hsame : entries.map (fun e => if e.1 = k then (k, w) else e) = entries := by
    refine (List.map_congr_left fun e he => if_neg ?_).trans (List.map_id' entries)
    rintro rfl
    exact hk (List.mem_map_of_mem he)
  rw [Entries.set, List.map_append, hsame]
  simp

end Last

def addAll (entries new : Entries) : Option Entries :=
  new.foldlM (fun entries e => addNew e.1 e.2 entries) entries

/-- Entries can be added exactly if no key comes twice. -/
theorem addAll_eq {entries : Entries} (hentries : (entries.map Prod.fst).Nodup) (new : Entries) :
    addAll entries new =
      if ((entries ++ new).map Prod.fst).Nodup then some (entries ++ new) else none := by
  induction new generalizing entries with
  | nil =>
    rw [List.append_nil, if_pos hentries]
    rfl
  | cons e new ih =>
    have hstep : addAll entries (e :: new) = (addNew e.1 e.2 entries).bind (addAll · new) := rfl
    rw [hstep, addNew_eq]
    by_cases hmem : e.1 ∈ entries.map Prod.fst
    · have htwice : ¬ ((entries ++ e :: new).map Prod.fst).Nodup := by
        rw [List.map_append, List.map_cons]
        exact fun h => List.disjoint_of_nodup_append h hmem List.mem_cons_self
      rw [if_pos hmem, if_neg htwice]
      rfl
    · have hentries' : ((entries ++ [e]).map Prod.fst).Nodup := by
        rw [List.map_append]
        exact hentries.append (List.nodup_singleton _) (by simpa using hmem)
      rw [if_neg hmem, Option.bind_some, ih hentries', List.append_assoc]
      rfl

theorem addAll_entries (lines : List Line) :
    addAll [] (lines.map Line.entry) =
      if (lines.map Line.key).Nodup then some (lines.map Line.entry) else none := by
  have hkeys : (lines.map Line.entry).map Prod.fst = lines.map Line.key := List.map_map ..
  rw [addAll_eq (show (([] : Entries).map Prod.fst).Nodup from .nil), List.nil_append, hkeys]

theorem foldlM_lines {place : Entries → Draft}
    (hplace : ∀ entries k v,
      (place entries).add (.pair [k] v) = (addNew k v entries).map place)
    (lines : List Line) (entries : Entries) :
    (lines.map Line.statement).foldlM Draft.add (place entries) =
      (addAll entries (lines.map Line.entry)).map place := by
  induction lines generalizing entries with
  | nil => rfl
  | cons l lines ih =>
    have hstep : addAll entries ((l :: lines).map Line.entry) =
        (addNew l.key l.value entries).bind (addAll · (lines.map Line.entry)) := rfl
    rw [List.map_cons, List.foldlM_cons, Line.statement, hplace, hstep]
    rcases addNew l.key l.value entries with _ | entries'
    · rfl
    · exact ih entries'

/-! ## Documents -/

def document (name : String) (top : List Line) (table : Option (List Line)) : List Char :=
  top.flatMap Line.chars ++
    match table with
    | none => []
    | some lines => headerLine name ++ lines.flatMap Line.chars

def documentEntries (name : String) (top : List Line) (table : Option (List Line)) : Entries :=
  top.map Line.entry ++
    match table with
    | none => []
    | some lines => [(name, .table .declared (lines.map Line.entry))]

theorem mem_documentEntries {name : String} {top : List Line} {table : Option (List Line)}
    {e : String × Value} : e ∈ documentEntries name top table ↔
      (∃ l ∈ top, l.entry = e) ∨
        ∃ lines, table = some lines ∧ e = (name, .table .declared (lines.map Line.entry)) := by
  rcases table with _ | lines <;> simp [documentEntries]

theorem entriesHeld_iff {entries : Entries} :
    entriesHeld entries ↔ ∀ e ∈ entries, e.2.isHeld := by
  induction entries with
  | nil => simp [entriesHeld]
  | cons e entries ih => simp [entriesHeld, ih]

theorem entriesHeld_document {name : String} {top : List Line} {table : Option (List Line)} :
    entriesHeld (documentEntries name top table) ↔ ∀ l ∈ top ++ table.getD [], l.value.isHeld := by
  have hlines (lines : List Line) :
      entriesHeld (lines.map Line.entry) ↔ ∀ l ∈ lines, l.value.isHeld := by
    rw [entriesHeld_iff, List.forall_mem_map]
    rfl
  rw [entriesHeld_iff]
  rcases table with _ | lines
  · simp [documentEntries, Line.entry]
  · simp [documentEntries, Value.isHeld, hlines, or_imp, forall_and, Line.entry]

def documentPieces (name : String) (top : List Line) (table : Option (List Line)) :
    List (List Char × Statement) :=
  top.map (fun l => (l.chars, l.statement)) ++
    match table with
    | none => []
    | some lines =>
      (headerLine name, .header [name]) :: lines.map fun l => (l.chars, l.statement)

theorem add_pair_top (entries : Entries) (k : String) (v : Value) :
    Draft.add ⟨entries, []⟩ (.pair [k] v) = (addNew k v entries).map fun entries => ⟨entries, []⟩ :=
  rfl

section Table

variable {entries : Entries} {name : String} (hname : name ∉ entries.map Prod.fst)
include hname

theorem add_header : Draft.add ⟨entries, []⟩ (.header [name]) =
    some ⟨entries ++ [(name, .table .declared [])], [name]⟩ := by
  have hdeclare : declare [name] entries = some (entries ++ [(name, .table .declared [])]) := by
    simp only [declare, splitLast, changeAt, Option.bind_eq_bind, Option.bind_some,
      get?_eq_none_iff.2 hname]
  rw [Draft.add, hdeclare]
  rfl

theorem add_pair_table (inner : Entries) (k : String) (v : Value) :
    Draft.add ⟨entries ++ [(name, .table .declared inner)], [name]⟩ (.pair [k] v) =
      (addNew k v inner).map fun inner =>
        ⟨entries ++ [(name, .table .declared inner)], [name]⟩ := by
  have hchange : changeAt .header (addPair [k] v) [name] .declared
      (entries ++ [(name, .table .declared inner)]) =
        (addNew k v inner).map fun inner => entries ++ [(name, .table .declared inner)] := by
    simp only [changeAt, get?_append_last hname, set_append_last hname]
    rfl
  rw [Draft.add, hchange, Option.map_map]
  rfl

end Table

section Document

variable {name : String} {top : List Line} {table : Option (List Line)}

theorem flatMap_documentPieces :
    (documentPieces name top table).flatMap Prod.fst = document name top table := by
  have hlines (lines : List Line) :
      (lines.map fun l => (l.chars, l.statement)).flatMap Prod.fst = lines.flatMap Line.chars :=
    List.flatMap_map ..
  rcases table with _ | lines <;> simp [documentPieces, document, hlines]

theorem mem_documentPieces {p : List Char × Statement} (hp : p ∈ documentPieces name top table) :
    p = (headerLine name, .header [name]) ∨
      ∃ l ∈ top ++ table.getD [], p = (l.chars, l.statement) := by
  rcases table with _ | lines
  · simp only [documentPieces, List.append_nil, List.mem_map] at hp
    obtain ⟨l, hl, rfl⟩ := hp
    exact .inr ⟨l, List.mem_append_left _ hl, rfl⟩
  · simp only [documentPieces, List.mem_append, List.mem_cons, List.mem_map] at hp
    obtain ⟨l, hl, rfl⟩ | rfl | ⟨l, hl, rfl⟩ := hp
    · exact .inr ⟨l, List.mem_append_left _ hl, rfl⟩
    · exact .inl rfl
    · exact .inr ⟨l, List.mem_append_right _ hl, rfl⟩

theorem build_documentPieces (hname : name ∉ top.map Line.key) :
    build ((documentPieces name top table).map Prod.snd) =
      if (top.map Line.key).Nodup ∧ ((table.getD []).map Line.key).Nodup then
        some (documentEntries name top table)
      else none := by
  have hsnd (lines : List Line) :
      (lines.map fun l => (l.chars, l.statement)).map Prod.snd = lines.map Line.statement :=
    List.map_map ..
  have htop : (top.map Line.statement).foldlM Draft.add {} =
      if (top.map Line.key).Nodup then some ⟨top.map Line.entry, []⟩ else none := by
    refine (foldlM_lines add_pair_top top []).trans ?_
    rw [addAll_entries]
    split_ifs <;> rfl
  by_cases hnodup : (top.map Line.key).Nodup
  · rw [if_pos hnodup] at htop
    rcases table with _ | lines
    · simp [build, documentPieces, documentEntries, hsnd, htop, hnodup]
    · have hnew : name ∉ (top.map Line.entry).map Prod.fst := by
        rw [List.map_map]
        exact hname
      have htable := foldlM_lines (add_pair_table hnew) lines []
      rw [addAll_entries] at htable
      by_cases hnodup' : (lines.map Line.key).Nodup <;>
        simp [build, documentPieces, documentEntries, hsnd, htop, add_header hnew, htable, hnodup,
          hnodup']
  · rw [if_neg hnodup] at htop
    rw [if_neg fun h => hnodup h.1]
    rcases table with _ | lines <;> simp [build, documentPieces, hsnd, htop]

variable (table)

/-- A text in lines is a document exactly if no key comes twice, as far as its values can be
read. -/
theorem parse?_document (hbare : IsBareKey name) (hname : name ∉ top.map Line.key)
    (hfits : ∀ l ∈ top ++ table.getD [], Fits l.text l.value) :
    parse? (document name top table) =
      if (top.map Line.key).Nodup ∧ ((table.getD []).map Line.key).Nodup then
        some (documentEntries name top table)
      else none := by
  rw [← flatMap_documentPieces, ← build_documentPieces hname]
  refine parse?_of_reads fun p hp => ?_
  obtain rfl | ⟨l, hl, rfl⟩ := mem_documentPieces hp
  · exact reads_headerLine hbare
  · exact l.reads (hfits l hl)

theorem parse?_document_only (hbare : IsBareKey name) (hname : name ∉ top.map Line.key) :
    parse? (document name top table) = none ∨
      parse? (document name top table) =
        if (top.map Line.key).Nodup ∧ ((table.getD []).map Line.key).Nodup then
          some (documentEntries name top table)
        else none := by
  rw [← flatMap_documentPieces, ← build_documentPieces hname]
  refine parse?_only fun p hp => ?_
  obtain rfl | ⟨l, hl, rfl⟩ := mem_documentPieces hp
  · exact (reads_headerLine hbare).toSpells
  · exact l.spells

end Document

end Proctor.Toml
