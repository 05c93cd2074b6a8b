import DocStore.Proofs.Retrieval
import DocStore.Proofs.SortOrder
import DocStore.Proofs.StableSort

/-!
What a search finds: the documents that match, sorted by a field and sliced.

A list is sorted by a key (`SortedBy`) when it holds the same documents, their values go up or
down, and documents that tie stand as they were inserted, both ways.  That is a stable sort by
the engine's comparison, so where the values are in order there is one such list and no other;
only an object that is no identifier can spoil their order (`transOn_valueOrder`).

    SortedBy key found sorted ↔ StablySorted (sortOrder key) found sorted
                                                             (sortedBy_iff)
    a search finds a slice of what matches, sorted           (find_slices)
-/

namespace DocStore

open Json (Object)
open DocStore.Filter

namespace Json

/-- The value that a document is sorted by: null, where the field is missing. -/
def sortValue (field : String) (doc : Object) : Json :=
  (lookup doc field).getD .null

def valueOrder (field : String) (a b : Object) : Ordering :=
  sortOrder (some (sortValue field a)) (some (sortValue field b))

/-- A missing field is sorted with the nulls. -/
theorem sortOrder_getD_null (a b : Option Json) :
    sortOrder (some (a.getD .null)) (some (b.getD .null)) = sortOrder a b := by
  cases a with
  | none =>
    cases b with
    | none => rfl
    | some w => cases w <;> rfl
  | some v =>
    cases b with
    | none => cases v <;> rfl
    | some w => rfl

instance (field : String) : Std.OrientedCmp (valueOrder field) where
  eq_swap := sortOrder_swap _ _

/-- Where all objects are identifiers, the values are in order. -/
theorem transOn_valueOrder {field : String} {docs : List Object}
    (h : ∀ doc ∈ docs, ¬ IsPlainObject (some (sortValue field doc))) :
    TransOn (valueOrder field) docs :=
  fun _ _ b hb _ _ => sortOrder_isLE_trans fun _ _ hst => absurd hst.2.1 (h b hb)

end Json

open Json (valueOrder sortValue)

namespace Engine

/-! ## Sorting by a field -/

theorem sortOrder_ascending (field : String) : sortOrder ⟨field, false⟩ = valueOrder field := by
  funext a b
  exact (Json.sortOrder_getD_null _ _).symm

/-- Descending is ascending with the documents exchanged. -/
theorem sortOrder_descending (field : String) :
    sortOrder ⟨field, true⟩ = fun a b => valueOrder field b a := by
  funext a b
  show (Json.sortOrder (Json.lookup a field) (Json.lookup b field)).swap = _
  rw [← Json.sortOrder_swap]
  exact (Json.sortOrder_getD_null _ _).symm

instance (key : SortKey) : Std.OrientedCmp (sortOrder key) := by
  obtain ⟨field, descending⟩ := key
  cases descending with
  | false =>
    rw [sortOrder_ascending]
    infer_instance
  | true =>
    rw [sortOrder_descending]
    exact ⟨Json.sortOrder_swap _ _⟩

theorem transOn_sortOrder {key : SortKey} {docs : List Object}
    (h : TransOn (valueOrder key.field) docs) : TransOn (sortOrder key) docs := by
  obtain ⟨field, descending⟩ := key
  cases descending with
  | false =>
    rw [sortOrder_ascending]
    exact h
  | true =>
    rw [sortOrder_descending]
    exact fun a ha b hb c hc hab hbc => h c hc b hb a ha hbc hab

/-- Documents that tie are the same ones both ways. -/
theorem ties_sortOrder (key : SortKey) :
    ties (sortOrder key) = ties (valueOrder key.field) := by
  obtain ⟨field, descending⟩ := key
  cases descending with
  | false => rw [sortOrder_ascending]
  | true =>
    funext v x
    rw [sortOrder_descending, Bool.eq_iff_iff, ties_iff, ties_iff]
    exact Std.OrientedCmp.eq_comm

/-- The documents found, sorted by a key: none is lost, their values go up or down, and those
that tie keep their order. -/
structure SortedBy (key : SortKey) (found sorted : List Object) : Prop where
  perm : sorted.Perm found
  ascending : key.descending = false →
    sorted.Pairwise fun a b => (valueOrder key.field a b).isLE
  descending : key.descending = true →
    sorted.Pairwise fun a b => (valueOrder key.field a b).isGE
  stable : ∀ doc ∈ found,
    sorted.filter (ties (valueOrder key.field) doc)
      = found.filter (ties (valueOrder key.field) doc)

theorem pairwise_sortOrder_iff (key : SortKey) (docs : List Object) :
    (docs.Pairwise fun a b => (sortOrder key a b).isLE) ↔
      (key.descending = false → docs.Pairwise fun a b => (valueOrder key.field a b).isLE) ∧
      (key.descending = true → docs.Pairwise fun a b => (valueOrder key.field a b).isGE) := by
  obtain ⟨field, descending⟩ := key
  cases descending with
  | false =>
    rw [sortOrder_ascending]
    exact ⟨fun h => ⟨fun _ => h, nofun⟩, fun h => h.1 rfl⟩
  | true =>
    rw [sortOrder_descending]
    have hturn : ∀ a b, (valueOrder field b a).isLE ↔ (valueOrder field a b).isGE := fun a b =>
      Std.OrientedCmp.isGE_iff_isLE.symm
    exact ⟨fun h => ⟨nofun, fun _ => h.imp (hturn _ _).1⟩, fun h => (h.2 rfl).imp (hturn _ _).2⟩

theorem sortedBy_iff (key : SortKey) (found sorted : List Object) :
    SortedBy key found sorted ↔ StablySorted (sortOrder key) found sorted := by
  constructor
  · rintro ⟨hperm, hup, hdown, hstable⟩
    rw [← ties_sortOrder] at hstable
    exact ⟨hperm, (pairwise_sortOrder_iff key sorted).2 ⟨hup, hdown⟩, hstable⟩
  · rintro ⟨hperm, hordered, hstable⟩
    obtain ⟨hup, hdown⟩ := (pairwise_sortOrder_iff key sorted).1 hordered
    rw [ties_sortOrder] at hstable
    exact ⟨hperm, hup, hdown, hstable⟩

theorem sortedBy_sorted {key : SortKey} {found : List Object}
    (h : TransOn (valueOrder key.field) found) : SortedBy key found (sorted (some key) found) :=
  (sortedBy_iff key found _).2 (stablySorted_sortStable (transOn_sortOrder h))

theorem SortedBy.unique {key : SortKey} {found sorted sorted' : List Object}
    (h : SortedBy key found sorted) (h' : SortedBy key found sorted') : sorted = sorted' :=
  ((sortedBy_iff key found sorted).1 h).unique ((sortedBy_iff key found sorted').1 h')

/-! ## Slices -/

/-- The slice that a query asks for: behind what is skipped, and of that all, or no more than
the limit. -/
structure IsSlice {α : Type} (q : Query) (all page : List α) : Prop where
  unlimited : q.limit = none ∨ q.limit = some 0 →
    page = all.drop ((q.skip.map UInt64.toNat).getD 0)
  limited : ∀ n, q.limit = some n → n ≠ 0 →
    page = (all.drop ((q.skip.map UInt64.toNat).getD 0)).take n.toNat

theorem isSlice_slice {α : Type} (q : Query) (all : List α) :
    IsSlice q all (slice q.skip q.limit all) where
  unlimited h := by
    unfold slice
    rcases h with h | h
    · rw [h]
    · rw [h]
      rfl
  limited n h hn := by
    unfold slice
    simp only [h, if_neg hn]

/-! ## Searches -/

/-- The documents of a collection that match a query, in the order in which they were
inserted. -/
def matching (e : Engine) (coll : String) (q : Query) : List Object :=
  (e.documents coll).filter (hits q.filter)

/-- A search that succeeds has met no fault, and finds documents as they are stored, each at
most once.  Unsorted, these are a slice of the matches in the order of their insertion.  Sorted
by a key whose values in the matches are in order, they are this slice of the one list that
holds the matches sorted by the key. -/
theorem find_slices {e : Engine} {coll : String} {q : Query} {docs : List Object}
    (h : e.find coll q = .ok docs) :
    Answers q.filter (e.documents coll) ∧ docs.Subperm (e.documents coll) ∧
    (q.sort = none → IsSlice q (e.matching coll q) docs) ∧
    ∀ key, q.sort = some key → TransOn (valueOrder key.field) (e.matching coll q) →
      ∃ sorted, SortedBy key (e.matching coll q) sorted ∧
        (∀ other, SortedBy key (e.matching coll q) other → other = sorted) ∧
        IsSlice q sorted docs := by
  have hanswers := answers_of_find h
  have hfound := find_of_answers hanswers
  rw [h, Except.ok.injEq] at hfound
  have hslice : IsSlice q (sorted q.sort (e.matching coll q)) docs := by
    rw [hfound]
    exact isSlice_slice q _
  refine ⟨hanswers, find_subperm h, fun hsort => ?_, fun key hsort htrans => ?_⟩
  · rw [hsort] at hslice
    exact hslice
  · rw [hsort] at hslice
    have hsorted := sortedBy_sorted htrans
    exact ⟨_, hsorted, fun _ hother => hother.unique hsorted, hslice⟩

/-- Almanacs of 1999, of no year, of the year null and of 2001, inserted in this order. -/
def almanacs : Engine :=
  let almanac (field : String) (v : Json) : Document :=
    ⟨[(field, v)], List.pairwise_singleton _ _⟩
  Engine.run { database := "app" }
    [.insertOne "almanacs" (Identifier.Source.take ⟨0, 0⟩).1 (almanac "year" (.ofWord 1999)),
      .insertOne "almanacs" (Identifier.Source.take ⟨0, 1⟩).1 (almanac "title" .null),
      .insertOne "almanacs" (Identifier.Source.take ⟨0, 2⟩).1 (almanac "year" .null),
      .insertOne "almanacs" (Identifier.Source.take ⟨0, 3⟩).1 (almanac "year" (.ofWord 2001))]

/-- Two of them, behind the latest. -/
def behindLatest : Query where
  filter := []
  sort := some ⟨"year", true⟩
  skip := some 1
  limit := some 2

/-- Those without a year tie, and the one that was inserted first is shown. -/
theorem find_slices_almanacs :
    ∃ first second third fourth, almanacs.documents "almanacs" = [first, second, third, fourth] ∧
      almanacs.find "almanacs" behindLatest = .ok [first, second] ∧
      TransOn (valueOrder "year") [first, second, third, fourth] ∧
      SortedBy ⟨"year", true⟩ [first, second, third, fourth] [fourth, first, second, third] ∧
      [first, second] = ([fourth, first, second, third].drop 1).take 2 := by
  obtain ⟨first, second, third, fourth, hdocs, hmatching, hvalues, hsorted, hfind⟩ :
      ∃ first second third fourth, almanacs.documents "almanacs" = [first, second, third, fourth] ∧
        almanacs.matching "almanacs" behindLatest = [first, second, third, fourth] ∧
        [first, second, third, fourth].map (sortValue "year")
          = [.ofWord 1999, .null, .null, .ofWord 2001] ∧
        sorted (some ⟨"year", true⟩) [first, second, third, fourth]
          = [fourth, first, second, third] ∧
        almanacs.find "almanacs" behindLatest = .ok [first, second] :=
    ⟨_, _, _, _, rfl, rfl, rfl, rfl, rfl⟩
  have htrans : TransOn (valueOrder "year") [first, second, third, fourth] := by
    refine Json.transOn_valueOrder fun doc hm => ?_
    rintro ⟨o, ho, -⟩
    have hvalue := List.mem_map_of_mem (f := sortValue "year") hm
    rw [hvalues, Option.some.inj ho] at hvalue
    simp [Json.ofWord] at hvalue
  have hall : SortedBy ⟨"year", true⟩ [first, second, third, fourth]
      [fourth, first, second, third] := by
    rw [← hsorted]
    exact sortedBy_sorted htrans
  obtain ⟨-, -, -, hslices⟩ := find_slices hfind
  rw [hmatching] at hslices
  obtain ⟨shown, -, hunique, hslice⟩ := hslices _ rfl htrans
  rw [← hunique _ hall] at hslice
  exact ⟨first, second, third, fourth, hdocs, hfind, htrans, hall,
    hslice.limited 2 rfl (by decide)⟩

end Engine

end DocStore
