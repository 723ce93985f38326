import Mathlib.Data.List.Perm.Basic
import Proctor.Discovery
import Proctor.Proofs.Text.Utf8.Order

/-!
# Finding tests in a listing

A directory may be listed in any order. The tests found are the same in all of them: the names of
its regular files that are text, each once, in the order of their bytes, which is the order of their
characters. A selection by name keeps that order and sees no more of the names than their set. One
entry that cannot be read leaves no tests at all.
-/

set_option autoImplicit false

namespace Proctor

theorem mem_selectTests {ids names : List String} {id : String} :
    id ∈ selectTests ids names ↔ id ∈ ids ∧ (names = [] ∨ id ∈ names) := by
  rw [selectTests]
  split
  · next h => simp [List.isEmpty_iff.1 h]
  · next h =>
    have hne : names ≠ [] := fun hnil => h (List.isEmpty_iff.2 hnil)
    simp [hne]

theorem selectTests_sublist (ids names : List String) :
    (selectTests ids names).Sublist ids := by
  rw [selectTests]
  split
  · exact List.Sublist.refl ids
  · exact List.filter_sublist

theorem selectTests_congr (ids : List String) {names names' : List String}
    (h : ∀ id, id ∈ names' ↔ id ∈ names) : selectTests ids names' = selectTests ids names := by
  have hempty : names'.isEmpty = names.isEmpty := by
    rw [Bool.eq_iff_iff, List.isEmpty_iff, List.isEmpty_iff, List.eq_nil_iff_forall_not_mem,
      List.eq_nil_iff_forall_not_mem]
    simp only [h]
  have hmem : ∀ id, names'.contains id = names.contains id := by
    intro id
    rw [Bool.eq_iff_iff, List.contains_iff_mem, List.contains_iff_mem, h]
  simp only [selectTests, hempty, hmem]

namespace Discovery

def Increasing (ids : List String) : Prop :=
  ids.Pairwise fun a b => Bytes.ofString a < Bytes.ofString b

theorem testId?_eq_some_iff {e : Entry} {id : String} :
    testId? e = some id ↔ e = ⟨Bytes.ofString id, .ok .regular⟩ := by
  rcases e with ⟨name, cause | kind⟩
  · simp [testId?]
  · cases kind with
    | regular => simp [testId?, Bytes.text?_eq_some_iff]
    | other => simp [testId?]

theorem mapM_read (entries : List Entry) :
    (entries.map Except.ok : Listing).mapM id = .ok entries := by
  induction entries with
  | nil => rfl
  | cons e entries ih =>
    rw [List.map_cons, List.mapM_cons, ih]
    rfl

theorem mapM_spoilt {listing : Listing} (h : ∃ cause, .error cause ∈ listing) :
    ∃ cause, .error cause ∈ listing ∧ listing.mapM id = .error cause := by
  induction listing with
  | nil => simp at h
  | cons entry listing ih =>
    rcases entry with cause | e
    · exact ⟨cause, List.mem_cons_self, rfl⟩
    · obtain ⟨cause, hmem⟩ := h
      obtain ⟨first, hfirst, hread⟩ := ih ⟨cause, (List.mem_cons.1 hmem).resolve_left nofun⟩
      refine ⟨first, List.mem_cons_of_mem _ hfirst, ?_⟩
      rw [List.mapM_cons, hread]
      rfl

def ordered (entries : List Entry) : List String :=
  (entries.filterMap testId?).mergeSort fun a b => decide (a ≤ b)

theorem testIds_read (entries : List Entry) :
    testIds (entries.map .ok) = .ok (ordered entries) := by
  rw [testIds, mapM_read]
  rfl

theorem mem_ordered {entries : List Entry} {id : String} :
    id ∈ ordered entries ↔ ⟨Bytes.ofString id, .ok .regular⟩ ∈ entries := by
  rw [ordered, List.mem_mergeSort, List.mem_filterMap]
  constructor
  · rintro ⟨e, hmem, he⟩
    rwa [testId?_eq_some_iff.1 he] at hmem
  · exact fun hmem => ⟨_, hmem, testId?_eq_some_iff.2 rfl⟩

theorem nodup_testIds {entries : List Entry} (h : (entries.map Entry.name).Nodup) :
    (entries.filterMap testId?).Nodup := by
  induction entries with
  | nil => exact List.nodup_nil
  | cons e entries ih =>
    rw [List.map_cons, List.nodup_cons] at h
    rw [List.filterMap_cons]
    rcases hid : testId? e with _ | id
    · exact ih h.2
    · refine List.nodup_cons.2 ⟨fun hmem => h.1 ?_, ih h.2⟩
      obtain ⟨e', he', hid'⟩ := List.mem_filterMap.1 hmem
      rw [testId?_eq_some_iff] at hid hid'
      rw [hid, ← hid']
      exact List.mem_map_of_mem he'

theorem ordered_sorted (entries : List Entry) : (ordered entries).Pairwise (· ≤ ·) := by
  refine (List.pairwise_mergeSort ?_ ?_ _).imp fun h => of_decide_eq_true h
  · intro a b c hab hbc
    exact decide_eq_true (String.le_trans (of_decide_eq_true hab) (of_decide_eq_true hbc))
  · intro a b
    simpa using String.le_total a b

/-- The same entries in another order give the same tests in the same order. -/
theorem ordered_perm {entries entries' : List Entry} (h : entries'.Perm entries) :
    ordered entries' = ordered entries := by
  refine List.Perm.eq_of_pairwise (fun a b _ _ => String.le_antisymm) (ordered_sorted entries')
    (ordered_sorted entries) ?_
  exact (List.mergeSort_perm _ _).trans
    ((h.filterMap testId?).trans (List.mergeSort_perm _ _).symm)

theorem ordered_increasing {entries : List Entry} (h : (entries.map Entry.name).Nodup) :
    Increasing (ordered entries) := by
  have hnodup : (ordered entries).Nodup :=
    (List.mergeSort_perm _ _).nodup_iff.2 (nodup_testIds h)
  refine ((ordered_sorted entries).and hnodup).imp ?_
  rintro a b ⟨hle, hne⟩
  refine Bytes.ofString_lt_iff.2 ?_
  rcases List.le_iff_lt_or_eq.1 hle with hlt | heq
  · exact hlt
  · exact absurd (String.toList_inj.1 heq) hne

theorem Increasing.byCharacters {ids : List String} (h : Increasing ids) :
    ids.Pairwise (· < ·) :=
  h.imp Bytes.ofString_lt_iff.1

theorem selectTests_increasing {ids : List String} (h : Increasing ids) (names : List String) :
    Increasing (selectTests ids names) :=
  List.Pairwise.sublist (selectTests_sublist ids names) h

variable {ω : Type}

theorem allTests_read {host : Host ω} {w : ω} {dir : Path} {entries : List Entry}
    (h : host.listing w dir = .ok (entries.map .ok)) :
    allTests host dir w = (.ok (ordered entries), w) := by
  have hids : (host.listing w dir).bind testIds = .ok (ordered entries) := by
    rw [h]
    exact testIds_read entries
  simp only [allTests, hids]

theorem allTests_spoilt {host : Host ω} {w : ω} {dir : Path} {listing : Listing} {cause : Cause}
    (h : host.listing w dir = .ok listing) (hspoilt : listing.mapM id = .error cause) :
    allTests host dir w = (.error (.testsUnreadable dir cause), w) := by
  have hids : (host.listing w dir).bind testIds = .error cause := by
    rw [h]
    change testIds listing = _
    rw [testIds, hspoilt]
    rfl
  simp only [allTests, hids]

theorem discover_eq {host : Host ω} {w : ω} {dir : Path} {result : Except Problem (List String)}
    (h : allTests host dir w = (result, w)) (names : List String) :
    discover host dir names w = (result.map fun ids => selectTests ids names, w) := by
  rw [discover, Action.andThen, h]
  cases result <;> rfl

/-- The tests of a directory whose entries have distinct names are the same for every order in which
it is listed: in increasing order of their bytes, and so of their characters, the names that are
text and belong to a regular file. Names select from them by their set alone, in the same order, and
no names select all. An entry that cannot be read is the answer, whatever else there is. -/
theorem tests_ignore_listing_order (entries : List Entry)
    (hnames : (entries.map Entry.name).Nodup) :
    (∃ ids : List String, Increasing ids ∧ ids.Pairwise (· < ·) ∧
      (∀ id, id ∈ ids ↔ ⟨Bytes.ofString id, .ok .regular⟩ ∈ entries) ∧
      (∀ {ω : Type} (host : Host ω) (w : ω) (dir : Path) (entries' : List Entry),
        entries'.Perm entries → host.listing w dir = .ok (entries'.map .ok) →
          allTests host dir w = (.ok ids, w) ∧ discover host dir [] w = (.ok ids, w) ∧
          ∀ names ≠ [], ∃ chosen, Increasing chosen ∧
            (∀ id, id ∈ chosen ↔ id ∈ ids ∧ id ∈ names) ∧
            ∀ names', (∀ id, id ∈ names' ↔ id ∈ names) →
              discover host dir names' w = (.ok chosen, w))) ∧
    ∀ {ω : Type} (host : Host ω) (w : ω) (dir : Path) (listing : Listing),
      host.listing w dir = .ok listing → (∃ cause, .error cause ∈ listing) →
        ∃ cause, .error cause ∈ listing ∧
          allTests host dir w = (.error (.testsUnreadable dir cause), w) ∧
          ∀ names, discover host dir names w = (.error (.testsUnreadable dir cause), w) := by
  constructor
  · have hids : Increasing (ordered entries) := ordered_increasing hnames
    refine ⟨ordered entries, hids, hids.byCharacters, fun id => mem_ordered, ?_⟩
    intro ω host w dir entries' hperm hlisting
    have hall : allTests host dir w = (.ok (ordered entries), w) := by
      rw [allTests_read hlisting, ordered_perm hperm]
    refine ⟨hall, discover_eq hall [], fun names hne => ?_⟩
    refine ⟨selectTests (ordered entries) names, selectTests_increasing hids names, ?_, ?_⟩
    · intro id
      rw [mem_selectTests]
      simp [hne]
    · intro names' hsame
      rw [← selectTests_congr (ordered entries) hsame]
      exact discover_eq hall names'
  · intro ω host w dir listing hlisting hspoilt
    obtain ⟨cause, hmem, hread⟩ := mapM_spoilt hspoilt
    have hall := allTests_spoilt hlisting hread
    exact ⟨cause, hmem, hall, discover_eq hall⟩

/-- Two tests between a directory, a link that leads nowhere and a name that is not text. -/
def mixedEntries : List Entry :=
  [⟨Bytes.ofString "é", .ok .regular⟩, ⟨Bytes.ofString "lib", .ok .other⟩,
    ⟨[0xFF], .ok .regular⟩, ⟨Bytes.ofString "old", .error .notFound⟩,
    ⟨Bytes.ofString "z", .ok .regular⟩]

def mixedHost : Host Bool where
  isDirectory _ _ := true
  isFile _ _ := false
  isPresent _ _ := true
  content _ _ := .ok []
  listing backwards _ :=
    .ok ((if backwards then mixedEntries.reverse else mixedEntries).map .ok)
  removeTree _ w := (.ok (), w)
  createDirectories _ w := (.ok (), w)
  launch _ _ w := (.ok { status := .exited 0, stdout := [], stderr := [], timedOut := false }, w)
  now _ := 0

theorem tests_of_mixed_entries :
    (mixedEntries.map Entry.name).Nodup ∧ mixedEntries.reverse.Perm mixedEntries ∧
    ∃ ids, Increasing ids ∧ "z" ∈ ids ∧ "é" ∈ ids ∧
      (∀ backwards, allTests mixedHost (.ofString "test") backwards = (.ok ids, backwards)) ∧
      ∃ chosen, "é" ∈ chosen ∧ "z" ∉ chosen ∧
        discover mixedHost (.ofString "test") ["é", "y"] true = (.ok chosen, true) ∧
        discover mixedHost (.ofString "test") ["y", "é", "é"] true = (.ok chosen, true) := by
  have hnames : (mixedEntries.map Entry.name).Nodup := by decide
  have hperm : mixedEntries.reverse.Perm mixedEntries := List.reverse_perm mixedEntries
  obtain ⟨ids, hids, -, hmem, hall⟩ := (tests_ignore_listing_order mixedEntries hnames).1
  obtain ⟨hback, -, hselect⟩ := hall mixedHost true (.ofString "test") _ hperm rfl
  have hforth := (hall mixedHost false (.ofString "test") _ (List.Perm.refl _) rfl).1
  obtain ⟨chosen, -, hchosen, hdiscover⟩ := hselect ["é", "y"] (List.cons_ne_nil _ _)
  refine ⟨hnames, hperm, ids, hids, ?_, ?_, ?_, chosen, ?_, ?_, ?_, ?_⟩
  · simp [hmem, mixedEntries]
  · simp [hmem, mixedEntries]
  · rintro (_ | _)
    · exact hforth
    · exact hback
  · simp [hchosen, hmem, mixedEntries]
  · simp [hchosen]
  · exact hdiscover _ fun id => Iff.rfl
  · exact hdiscover _ fun id => by simp [or_comm]

end Discovery

end Proctor
