import DocStore.Proofs.Elements
import DocStore.Proofs.Markers
import DocStore.Proofs.Permutation

/-!
Sub-filters, and the places in which a filter may stand.

A filter that is a predicate is taken apart: its patterns come out of their markers and are
asked behind its other fields.  A filter that stands in `whereOr`, in `whereAnd` or in an
`elem` is asked as it is written.  That is a loop over the same questions in another order,

    verdict (filter fields).constraints doc = matches? (patternsLast fields) doc
                                                             (Predicate.verdict_filter)
    f.Perm g → (matches? f doc = .ok true ↔ matches? g doc = .ok true)
                                                             (matches?_perm)

so the places agree: which entry is asked first tells at most whether a fault is met before
an answer is no                                              (subFilters_agree).
-/

namespace DocStore

open Json (Object)
open DocStore.Filter

/-- A document that may stand in a `filter`. -/
structure SubFilter where
  fields : Object
  wellFormed : (Json.obj fields).WellFormed
  valid : (Predicate.filter fields).validate = .ok ()

/-! ## Loops over the same questions -/

namespace Filter

theorem settle_false_eq_true_iff {ε : Type} {as : List (Except ε Bool)} :
    settle false as = .ok true ↔ ∀ a ∈ as, a = .ok true :=
  settle_eq_not_iff

/-- A filter says yes just when each of its entries does. -/
theorem matches?_true_iff (f doc : Object) :
    matches? f doc = .ok true ↔ ∀ e ∈ f, matchEntry e.1 e.2 doc = .ok true := by
  rw [matches?, matchEntries_eq, settle_false_eq_true_iff, List.forall_mem_map]

/-- With its entries in another order, a filter says yes to the same documents and does not
contradict itself. -/
theorem matches?_perm {f g : Object} (h : f.Perm g) (doc : Object) :
    (matches? f doc = .ok true ↔ matches? g doc = .ok true) ∧
    Compatible (matches? f doc) (matches? g doc) := by
  constructor
  · rw [matches?_true_iff, matches?_true_iff]
    simp only [h.mem_iff]
  · rw [matches?, matches?, matchEntries_eq, matchEntries_eq]
    exact (Paired.of_perm (h.map _)).settle false

/-- Clauses ask the filters among them. -/
theorem matches?_clauses {key : String} {stop : Bool} (hstop : stopOf? key = some stop)
    {fs : List Object} (hne : fs ≠ []) (doc : Object) :
    matches? [(key, .arr (fs.map .obj))] doc = settle stop (fs.map fun f => matches? f doc) := by
  have hclauses : checkClauses key (.arr (fs.map .obj)) = .ok () := by
    cases fs with
    | nil => exact absurd rfl hne
    | cons f fs => simp [checkClauses, Json.object?]
  show andThen (matchEntry key _ doc) (.ok true) = _
  rw [andThen_true, matchEntry_clauses hstop, hclauses]
  show settle stop ((fs.map Json.obj).map _) = _
  rw [List.map_map]
  rfl

/-- All of several filters hold when each of them does. -/
theorem matches?_and_iff {fs : List Object} (hne : fs ≠ []) (doc : Object) :
    matches? (Constraint.and fs).toFilter doc = .ok true ↔ ∀ f ∈ fs, matches? f doc = .ok true := by
  show matches? [("$and", .arr (fs.map .obj))] doc = .ok true ↔ _
  have hstop : stopOf? "$and" = some false := rfl
  rw [matches?_clauses hstop hne, settle_false_eq_true_iff, List.forall_mem_map]

/-- Of several filters, asked until one holds, an answer says whether one does. -/
theorem matches?_or_iff {fs : List Object} (hne : fs ≠ []) {doc : Object} {hit : Bool}
    (h : matches? (Constraint.or fs).toFilter doc = .ok hit) :
    hit = true ↔ ∃ f ∈ fs, matches? f doc = .ok true := by
  have hstop : stopOf? "$or" = some true := rfl
  have hsettle : settle true (fs.map fun f => matches? f doc) = .ok hit := by
    rw [← matches?_clauses hstop hne]
    exact h
  rw [eq_stop_iff_of_settle hsettle, List.mem_map]

theorem mem_elements_iff {x : Json} {actual : Option Json} :
    x ∈ elements actual ↔ ∃ xs, actual = some (.arr xs) ∧ x ∈ xs := by
  cases actual with
  | none => simp [elements]
  | some v => cases v <;> simp [elements, Json.items?]

end Filter

/-! ## A filter in parts -/

namespace Predicate

/-- The fields of a filter in the order in which they are asked once it is compiled: those
that ask for equality, and then the patterns. -/
def patternsLast (fields : Object) : Object :=
  plainFields fields ++ List.filter (fun e => (Pattern.ofMarker? e.2).isSome) fields

theorem patternsLast_perm (fields : Object) : (patternsLast fields).Perm fields := by
  have hsome : (fun e : String × Json => (Pattern.ofMarker? e.2).isSome)
      = fun e => !(Pattern.ofMarker? e.2).isNone := by
    funext e
    simp
  rw [patternsLast, plainFields, hsome]
  exact List.filter_append_perm _ fields

variable {fields : Object} (hwf : (Json.obj fields).WellFormed)
  (hv : validateFields fields = .ok ()) (doc : Object)

/-- The plain fields are asked as they stand, if there are any. -/
theorem verdict_plainFields (fields doc : Object) :
    verdict (if (plainFields fields).isEmpty then [] else [.equals (plainFields fields)]) doc
      = settle false ((plainFields fields).map fun e => matchEntry e.1 e.2 doc) := by
  split
  · next h =>
    rw [List.isEmpty_iff.1 h]
    rfl
  · rw [verdict_singleton, ← matchEntries_eq]
    rfl

include hwf hv

/-- The patterns ask what their markers ask. -/
theorem map_patternFields_toJson :
    ((patternFields fields).map fun e => matchEntry e.1 e.2.toJson doc)
      = (List.filter (fun e => (Pattern.ofMarker? e.2).isSome) fields).map
          fun e => matchEntry e.1 e.2 doc := by
  rw [← List.filterMap_eq_map (f := fun e : String × Json => matchEntry e.1 e.2 doc),
    List.filterMap_filter, patternFields, List.map_filterMap]
  refine List.filterMap_congr fun e he => ?_
  cases hm : Pattern.ofMarker? e.2 with
  | none => rfl
  | some m =>
    obtain ⟨p, -, rfl, -⟩ := compile_of_validateFields hv e he m hm
    obtain ⟨o, ho, hmarked⟩ := Pattern.exists_markedBy hm
    have hd : (Json.obj o).WellFormed := ho ▸ hwf.part e.2 (Object.mem_parts he)
    show some (matchEntry e.1 p.toJson doc) = some (matchEntry e.1 e.2 doc)
    rw [ho, Pattern.matchEntry_marker hmarked hd.distinct]

/-- A filter in parts is the filter with its patterns behind the other fields. -/
theorem verdict_filter :
    verdict (Predicate.filter fields).constraints doc = matches? (patternsLast fields) doc := by
  have hpatterns : ((patternFields fields).map fun e => Constraint.pattern e.1 e.2).map
      (fun k => matches? k.toFilter doc)
        = (patternFields fields).map fun e => matchEntry e.1 e.2.toJson doc := by
    rw [List.map_map]
    exact List.map_congr_left fun e _ => andThen_true _
  rw [constraints, verdict_append, verdict_plainFields, verdict_eq, hpatterns,
    map_patternFields_toJson hwf hv, ← settle_false_append, ← List.map_append, matches?,
    matchEntries_eq]
  rfl

end Predicate

/-! ## Places of a sub-filter -/

namespace SubFilter

variable (m : SubFilter)

theorem validFields : Predicate.validateFields m.fields = .ok () :=
  m.valid

/-- Compiled or as it stands, a sub-filter says yes to the same documents, and does not
contradict itself. -/
theorem matches?_compile (coll : String) :
    ∃ c, compile coll [.filter m.fields] = .ok c ∧ ∀ doc,
      (matches? m.fields doc = .ok true ↔ matches? c.filter doc = .ok true) ∧
      Compatible (matches? m.fields doc) (matches? c.filter doc) := by
  obtain ⟨c, hc, -⟩ := exists_compile coll (List.forall_mem_singleton.2 m.valid)
  refine ⟨c, hc, fun doc => ?_⟩
  rw [DocStore.matches?_compile hc, List.flatMap_singleton,
    Predicate.verdict_filter m.wellFormed m.validFields]
  exact matches?_perm (Predicate.patternsLast_perm m.fields).symm doc

/-- An element filter that holds no operators asks for an element that is a document and fits. -/
theorem elem_iff {key : String} (hplain : startsWithDollar key = false)
    (hops : isOperators m.fields = false) {doc : Object} {hit : Bool}
    (h : matches? (Constraint.elemMatch key (.obj m.fields)).toFilter doc = .ok hit) :
    hit = true ↔ ∃ xs e, Json.lookup doc key = some (.arr xs) ∧ .obj e ∈ xs ∧
      matches? m.fields e = .ok true := by
  rw [matches?_elemMatch hplain (operators?_of_not_isOperators hops)] at h
  rw [eq_stop_iff_of_settle h, List.mem_map]
  constructor
  · rintro ⟨x, hx, hanswer⟩
    obtain ⟨xs, hxs, hx⟩ := mem_elements_iff.1 hx
    cases x with
    | obj e => exact ⟨xs, e, hxs, hx, hanswer⟩
    | _ => cases hanswer
  · rintro ⟨xs, e, hxs, he, hanswer⟩
    exact ⟨.obj e, mem_elements_iff.2 ⟨xs, hxs, he⟩, hanswer⟩

end SubFilter

/-- A sub-filter means the same wherever it stands: as it is written, as a predicate, as one of
those that all or that some have to hold, and, unless it reads as operators, as a filter on
elements.  What faults leave open is whether a loop that could say yes gets there. -/
theorem subFilters_agree (coll : String) {key : String} (hkey : key ≠ "")
    (hplain : startsWithDollar key = false) (m : SubFilter) {ms : List SubFilter} (hne : ms ≠ []) :
    ∃ (c : SubFilter → Cursor) (cand cor cel : Cursor),
      (∀ m, compile coll [.filter m.fields] = .ok (c m)) ∧
      compile coll [.whereAnd (ms.map (·.fields))] = .ok cand ∧
      compile coll [.whereOr (ms.map (·.fields))] = .ok cor ∧
      compile coll [.elem key (.obj m.fields)] = .ok cel ∧
      ∀ doc,
        (matches? m.fields doc = .ok true ↔ matches? (c m).filter doc = .ok true) ∧
        (∀ b b', matches? m.fields doc = .ok b → matches? (c m).filter doc = .ok b' → b = b') ∧
        (matches? cand.filter doc = .ok true ↔
          ∀ m ∈ ms, matches? (c m).filter doc = .ok true) ∧
        (∀ hit, matches? cor.filter doc = .ok hit →
          (hit = true ↔ ∃ m ∈ ms, matches? (c m).filter doc = .ok true)) ∧
        (isOperators m.fields = false → ∀ hit, matches? cel.filter doc = .ok hit →
          (hit = true ↔ ∃ xs e, Json.lookup doc key = some (.arr xs) ∧ .obj e ∈ xs ∧
            matches? (c m).filter e = .ok true)) := by
  have hfilters : ms.map (·.fields) ≠ [] := fun h => hne (List.map_eq_nil_iff.1 h)
  have hand : (Predicate.whereAnd (ms.map (·.fields))).validate = .ok () :=
    Predicate.validate_whereAnd hfilters
  have hor : (Predicate.whereOr (ms.map (·.fields))).validate = .ok () :=
    Predicate.validate_whereOr hfilters
  have hel : (Predicate.elem key (.obj m.fields)).validate = .ok () :=
    Predicate.validate_of_key rfl hkey
  choose c hc hmeans using fun m : SubFilter => m.matches?_compile coll
  obtain ⟨cand, hcand, hcandm⟩ := matches?_compile_single coll hand rfl
  obtain ⟨cor, hcor, hcorm⟩ := matches?_compile_single coll hor rfl
  obtain ⟨cel, hcel, hcelm⟩ := matches?_compile_single coll hel rfl
  refine ⟨c, cand, cor, cel, hc, hcand, hcor, hcel, fun doc =>
    ⟨(hmeans m doc).1, (hmeans m doc).2, ?_, fun hit h => ?_, fun hops hit h => ?_⟩⟩
  · rw [hcandm, matches?_and_iff hfilters, List.forall_mem_map]
    simp only [(hmeans _ doc).1]
  · rw [hcorm] at h
    rw [matches?_or_iff hfilters h]
    simp only [List.mem_map, exists_exists_and_eq_and, (hmeans _ doc).1]
  · rw [hcelm] at h
    rw [m.elem_iff hplain hops h]
    simp only [(hmeans m _).1]

/-- Books with a title that is a text, of which one copy is left or none was ever out. -/
def lastCopy : Object :=
  [("title", .obj [(optionsKey, .str "m"), (regexKey, .str "^")]),
    ("$or", .arr [.obj [("out", .null)], .obj [("copies", .obj [("$in", .arr [.bool true])])]])]

/-- What is not out. -/
def notOut : Object :=
  [("out", .obj [("$ne", .bool true)])]

def lastCopyFilter : SubFilter where
  fields := lastCopy
  wellFormed := by simp [lastCopy, Object.Distinct, Object.keys, optionsKey, regexKey]
  valid := rfl

def notOutFilter : SubFilter where
  fields := notOut
  wellFormed := by simp [notOut, Object.Distinct, Object.keys]
  valid := rfl

/-- A book that both filters describe. -/
def oneCopy : Object :=
  [("title", .str "Lean"), ("out", .bool false), ("copies", .bool true)]

/-- A shelf with it. -/
def oneShelf : Object :=
  [("books", .arr [.null, .obj oneCopy])]

theorem subFilters_agree_oneCopy :
    ∃ c cand cor cel, compile "books" [.filter lastCopy] = .ok c ∧
      compile "books" [.whereAnd [lastCopy, notOut]] = .ok cand ∧
      compile "books" [.whereOr [lastCopy, notOut]] = .ok cor ∧
      compile "books" [.elem "books" (.obj lastCopy)] = .ok cel ∧
      matches? lastCopy oneCopy = .ok true ∧ matches? c.filter oneCopy = .ok true ∧
      matches? cand.filter oneCopy = .ok true ∧ matches? cor.filter oneCopy = .ok true ∧
      matches? cel.filter oneShelf = .ok true := by
  have hkey : "books" ≠ "" := by decide
  have hplain : startsWithDollar "books" = false := by decide
  have hne : [lastCopyFilter, notOutFilter] ≠ [] := by simp
  obtain ⟨c, cand, cor, cel, hc, hcand, hcor, hcel, hagree⟩ :=
    subFilters_agree "books" hkey hplain lastCopyFilter hne
  obtain ⟨hlast, -, hand, hor, -⟩ := hagree oneCopy
  obtain ⟨-, -, -, -, helem⟩ := hagree oneShelf
  have hraw : matches? lastCopy oneCopy = .ok true := rfl
  have hlastCopy : matches? (c lastCopyFilter).filter oneCopy = .ok true := hlast.1 hraw
  have hnotOut : matches? (c notOutFilter).filter oneCopy = .ok true := by
    have hc' := hc notOutFilter
    generalize c notOutFilter = c' at hc' ⊢
    cases hc'
    rfl
  obtain ⟨found, hfound⟩ : ∃ hit, matches? cor.filter oneCopy = .ok hit := by
    cases hcor
    exact ⟨_, rfl⟩
  obtain ⟨fits, hfits⟩ : ∃ hit, matches? cel.filter oneShelf = .ok hit := by
    cases hcel
    exact ⟨_, rfl⟩
  refine ⟨_, cand, cor, cel, hc lastCopyFilter, hcand, hcor, hcel, hraw, hlastCopy, ?_, ?_, ?_⟩
  · exact hand.2 (by simp [hlastCopy, hnotOut])
  · rw [hfound, (hor found hfound).2 ⟨_, List.mem_cons_self, hlastCopy⟩]
  · rw [hfits, (helem rfl fits hfits).2 ⟨_, _, rfl, by simp, hlastCopy⟩]

end DocStore
