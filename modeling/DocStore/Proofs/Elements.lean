import DocStore.Identifier
import DocStore.Proofs.SinglePredicate

/-!
What element filters ask of the elements of an array.

A payload that is no document is compared with each element as a field is compared with a
value.  An element that is an array is therefore also asked for its own elements, one level
deeper than the payload says:

    elem key v holds of a field ↔ an element equals v, or an element of an element does
                                                             (matches?_elem_value)

An identifier is a document, and no document of operators.  So as a payload it is taken for
a filter on the elements that are documents, and is at fault with the first of them; in an
equality and in a list of values it stands for itself    (matches?_elem_identifier).
-/

namespace DocStore

open Json (Object)
open DocStore.Filter

/-! ## Elements -/

namespace Filter

/-- The elements of an array; a field that is no array has none. -/
def elements (actual : Option Json) : List Json :=
  (actual.bind Json.items?).getD []

/-- An element of the array equals the value. -/
def HasElement (v : Json) (actual : Option Json) : Prop :=
  ∃ x ∈ elements actual, x.same v = true

theorem elements_arr (xs : List Json) : elements (some (.arr xs)) = xs := rfl

/-- A field that is there equals a value itself, or by one of its elements. -/
theorem equals_some_iff (x v : Json) :
    equals (some x) v = true ↔ x.same v = true ∨ HasElement v (some x) := by
  cases x with
  | arr xs =>
    unfold HasElement
    rw [elements_arr]
    simp [equals]
  | _ => simp [equals, HasElement, elements, Json.items?]

/-- An element filter asks the elements one after the other. -/
theorem matches?_elemMatch {key : String} (hkey : startsWithDollar key = false) {sub : Object}
    {ops : Bool} (hops : operators? sub = .ok ops) (doc : Object) :
    matches? (Constraint.elemMatch key (.obj sub)).toFilter doc
      = settle true ((elements (Json.lookup doc key)).map (element sub ops)) := by
  have hreads : operators? [("$elemMatch", .obj sub)] = .ok true :=
    operators?_single rfl (by decide) (by decide) _
  show matches? [(key, .obj [("$elemMatch", .obj sub)])] doc = _
  rw [matches?_operator hreads, fieldFault?_of_plain hkey]
  show matchOperator _ "$elemMatch" _ _ = _
  rw [matchOperator_elemMatch rfl]
  cases Json.lookup doc key with
  | none => rfl
  | some x =>
    cases x with
    | arr xs =>
      show matchElements (.obj sub) xs = _
      simp only [matchElements, hops, elements_arr]
    | _ => rfl

/-! ## Values as payloads -/

theorem elemFilter_value {v : Json} (hv : v.object? = none) :
    Compile.elemFilter v = .obj [("$eq", v)] := by
  cases v with
  | obj o => cases hv
  | _ => rfl

/-- A value as the payload is compared with each element. -/
theorem matches?_elemMatch_value {key : String} (hkey : startsWithDollar key = false) (v : Json)
    (doc : Object) :
    matches? (Constraint.elemMatch key (.obj [("$eq", v)])).toFilter doc
      = .ok ((elements (Json.lookup doc key)).any fun x => equals (some x) v) := by
  have hops : operators? [("$eq", v)] = .ok true :=
    operators?_single rfl (by decide) (by decide) v
  -- each element is asked as a field would be, and so never at fault
  have helement : element [("$eq", v)] true = fun x => .ok (equals (some x) v) := by
    funext x
    show andThen (matchOperator _ "$eq" v (some x)) (.ok true) = _
    rw [andThen_true]
    unfold matchOperator
    rfl
  rw [matches?_elemMatch hkey hops, helement, settle_map_ok]
  simp

end Filter

/-- An element filter with a value compiles, answers about every document, and holds where an
element equals the value, or an element of an element that is an array does.  So it asks for
an element that equals the value, unless only such an array has the value for an element. -/
theorem matches?_elem_value (coll : String) {key : String} (hkey : key ≠ "")
    (hplain : startsWithDollar key = false) {v : Json} (hv : v.object? = none) :
    ∃ c, compile coll [.elem key v] = .ok c ∧ ∀ doc, ∃ hit, matches? c.filter doc = .ok hit ∧
      (hit = true ↔ HasElement v (Json.lookup doc key) ∨
        ∃ x ∈ elements (Json.lookup doc key), HasElement v (some x)) ∧
      ((hit = true ↔ HasElement v (Json.lookup doc key)) ↔
        ((∃ x ∈ elements (Json.lookup doc key), HasElement v (some x)) →
          HasElement v (Json.lookup doc key))) := by
  have hvalid : (Predicate.elem key v).validate = .ok () := Predicate.validate_of_key rfl hkey
  obtain ⟨c, hc, hmatch⟩ := matches?_compile_single coll hvalid rfl
  refine ⟨c, hc, fun doc => ?_⟩
  have hiff : ((elements (Json.lookup doc key)).any fun x => equals (some x) v) = true ↔
      HasElement v (Json.lookup doc key) ∨
        ∃ x ∈ elements (Json.lookup doc key), HasElement v (some x) := by
    simp only [List.any_eq_true, equals_some_iff, and_or_left, exists_or]
    rfl
  refine ⟨_, ?_, hiff, ?_⟩
  · rw [hmatch, elemFilter_value hv, matches?_elemMatch_value hplain]
  · rw [hiff, or_iff_left_iff_imp]

/-- Null among the places of a list. -/
theorem matches?_elem_null :
    "slots" ≠ "" ∧ startsWithDollar "slots" = false ∧ Json.null.object? = none ∧
    ∃ c, compile "shelves" [.elem "slots" .null] = .ok c ∧
      ∀ doc, ∃ hit, matches? c.filter doc = .ok hit ∧
        (hit = true ↔ HasElement .null (Json.lookup doc "slots") ∨
          ∃ x ∈ elements (Json.lookup doc "slots"), HasElement .null (some x)) ∧
        ((hit = true ↔ HasElement .null (Json.lookup doc "slots")) ↔
          ((∃ x ∈ elements (Json.lookup doc "slots"), HasElement .null (some x)) →
            HasElement .null (Json.lookup doc "slots"))) :=
  ⟨by decide, by decide, rfl, matches?_elem_value "shelves" (by decide) (by decide) rfl⟩

/-- A tag in an array in an array. -/
def nestedTag : Object :=
  [("tags", .arr [.arr [.str "new"]])]

/-- It is found in the outer array, of which it is no element. -/
theorem elem_nestedTag :
    (∃ c, compile "c" [.elem "tags" (.str "new")] = .ok c ∧
      matches? c.filter nestedTag = .ok true) ∧
    ¬ HasElement (.str "new") (Json.lookup nestedTag "tags") := by
  refine ⟨⟨_, rfl, rfl⟩, ?_⟩
  rintro ⟨x, hx, hsame⟩
  rw [List.mem_singleton.1 hx] at hsame
  cases hsame

/-! ## Identifiers as payloads -/

namespace Filter

/-- An element of the array is a document. -/
def HasDocument (actual : Option Json) : Prop :=
  ∃ o, .obj o ∈ elements actual

/-- An identifier does not read as operators. -/
theorem operators?_identifier (id : Identifier) : operators? [(oidKey, .str id.hex)] = .ok false :=
  rfl

/-- Taken for a filter, an identifier is at fault with every document. -/
theorem element_identifier (id : Identifier) (x : Json) :
    element [(oidKey, .str id.hex)] false x
      = if x.object?.isSome then .error (.unknownClause oidKey) else .ok false := by
  cases x <;> rfl

/-- The first document settles it. -/
theorem settle_identifier (id : Identifier) (xs : List Json) :
    settle true (xs.map (element [(oidKey, .str id.hex)] false))
      = if xs.any fun x => x.object?.isSome then .error (.unknownClause oidKey) else .ok false := by
  induction xs with
  | nil => rfl
  | cons x xs ih =>
    rw [List.map_cons, settle_true_cons, ih, element_identifier, List.any_cons]
    by_cases hx : x.object?.isSome = true
    · simp [hx, orElse]
    · simp [hx, orElse]

theorem any_object_iff (actual : Option Json) :
    ((elements actual).any fun x => x.object?.isSome) = true ↔ HasDocument actual := by
  rw [List.any_eq_true]
  constructor
  · rintro ⟨x, hx, hobj⟩
    cases x with
    | obj o => exact ⟨o, hx⟩
    | _ => cases hobj
  · rintro ⟨o, ho⟩
    exact ⟨.obj o, ho, rfl⟩

/-- What equals an identifier is a document. -/
theorem HasElement.hasDocument {id : Identifier} {actual : Option Json}
    (h : HasElement id.toJson actual) : HasDocument actual := by
  obtain ⟨x, hx, hsame⟩ := h
  cases x with
  | obj o => exact ⟨o, hx⟩
  | _ => cases hsame

theorem matches?_elemMatch_identifier {key : String} (hkey : startsWithDollar key = false)
    (id : Identifier) (doc : Object) :
    matches? (Constraint.elemMatch key id.toJson).toFilter doc
      = if (elements (Json.lookup doc key)).any fun x => x.object?.isSome then
          .error (.unknownClause oidKey)
        else .ok false := by
  show matches? (Constraint.elemMatch key (.obj [(oidKey, .str id.hex)])).toFilter doc = _
  rw [matches?_elemMatch hkey (operators?_identifier id), settle_identifier]

/-- An identifier equals a field that is it, or that has it for an element. -/
theorem equals_identifier_iff (id : Identifier) (actual : Option Json) :
    equals actual id.toJson = true ↔
      (∃ x, actual = some x ∧ x.same id.toJson = true) ∨ HasElement id.toJson actual := by
  cases actual with
  | none => simp [equals, Identifier.toJson, Json.isNull, HasElement, elements]
  | some x => simp [equals_some_iff]

end Filter

/-- An element filter with an identifier never holds: it is at fault where an element is a
document, so where an element is that identifier, and says no elsewhere.  As the value of a
field and in a list of values the identifier is compared, with the field and its elements. -/
theorem matches?_elem_identifier (coll : String) {key : String} (hkey : key ≠ "")
    (hplain : startsWithDollar key = false) (id : Identifier) :
    ∃ ce cf ci, compile coll [.elem key id.toJson] = .ok ce ∧
      compile coll [.filter [(key, id.toJson)]] = .ok cf ∧
      compile coll [.isIn key [id.toJson]] = .ok ci ∧
      ∀ doc,
        (HasDocument (Json.lookup doc key) →
          matches? ce.filter doc = .error (.unknownClause oidKey)) ∧
        (¬ HasDocument (Json.lookup doc key) →
          matches? ce.filter doc = .ok false ∧ ¬ HasElement id.toJson (Json.lookup doc key)) ∧
        ∃ hit, matches? cf.filter doc = .ok hit ∧ matches? ci.filter doc = .ok hit ∧
          (hit = true ↔ (∃ x, Json.lookup doc key = some x ∧ x.same id.toJson = true) ∨
            HasElement id.toJson (Json.lookup doc key)) := by
  have helem : (Predicate.elem key id.toJson).validate = .ok () :=
    Predicate.validate_of_key rfl hkey
  have hin : (Predicate.isIn key [id.toJson]).validate = .ok () :=
    Predicate.validate_of_key rfl hkey
  have hvalue : ∀ o, id.toJson = .obj o → isOperators o = false := by
    rintro _ ⟨⟩
    rfl
  obtain ⟨ce, hce, he⟩ :=
    matches?_compile_single (k := .elemMatch key id.toJson) coll helem rfl
  obtain ⟨cf, hcf, hf⟩ :=
    matches?_compile_single coll (Predicate.validate_filter hvalue hkey)
      (Predicate.constraints_filter hvalue)
  obtain ⟨ci, hci, hi⟩ := matches?_compile_single coll hin rfl
  refine ⟨ce, cf, ci, hce, hcf, hci, fun doc => ⟨?_, ?_, _, ?_, ?_, equals_identifier_iff id _⟩⟩
  · intro h
    rw [he, matches?_elemMatch_identifier hplain, if_pos ((any_object_iff _).2 h)]
  · intro h
    refine ⟨?_, fun h' => h h'.hasDocument⟩
    rw [he, matches?_elemMatch_identifier hplain, if_neg fun h' => h ((any_object_iff _).1 h')]
  · rw [hf]
    exact matches?_condition hplain id.toJson doc
  · rw [hi, matches?_isIn hplain]
    simp

/-- An author of books, by identifier. -/
def authorId : Identifier :=
  ⟨List.replicate 24 (Hex.lowest 7), rfl⟩

theorem matches?_elem_authorId :
    "authors" ≠ "" ∧ startsWithDollar "authors" = false ∧
    ∃ ce cf ci, compile "books" [.elem "authors" authorId.toJson] = .ok ce ∧
      compile "books" [.filter [("authors", authorId.toJson)]] = .ok cf ∧
      compile "books" [.isIn "authors" [authorId.toJson]] = .ok ci ∧
      ∀ doc,
        (HasDocument (Json.lookup doc "authors") →
          matches? ce.filter doc = .error (.unknownClause oidKey)) ∧
        (¬ HasDocument (Json.lookup doc "authors") →
          matches? ce.filter doc = .ok false ∧
            ¬ HasElement authorId.toJson (Json.lookup doc "authors")) ∧
        ∃ hit, matches? cf.filter doc = .ok hit ∧ matches? ci.filter doc = .ok hit ∧
          (hit = true ↔
            (∃ x, Json.lookup doc "authors" = some x ∧ x.same authorId.toJson = true) ∨
            HasElement authorId.toJson (Json.lookup doc "authors")) :=
  ⟨by decide, by decide, matches?_elem_identifier "books" (by decide) (by decide) authorId⟩

/-- A book by that author. -/
def authored : Object :=
  [("authors", .arr [authorId.toJson])]

/-- The author is found in it as a value, but to filter the authors by the identifier is a
fault. -/
theorem elem_authored :
    HasElement authorId.toJson (Json.lookup authored "authors") ∧
    (∃ c, compile "books" [.elem "authors" authorId.toJson] = .ok c ∧
      matches? c.filter authored = .error (.unknownClause oidKey)) ∧
    (∃ c, compile "books" [.isIn "authors" [authorId.toJson]] = .ok c ∧
      matches? c.filter authored = .ok true) := by
  refine ⟨⟨authorId.toJson, List.mem_singleton.2 rfl, rfl⟩, ⟨_, rfl, rfl⟩, _, rfl, rfl⟩

end DocStore
