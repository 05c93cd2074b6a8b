import DocStore.Proofs.EqualDocuments

/-!
Filters whose keys and clauses stand in another order.

A value in a filter is a literal, a filter, a list of clauses, a condition or an element
filter (`Place`).  Wherever it stands, its keys may move; clauses may move too, but not the
items of a literal (`Rearranged`).  A rearranged literal is an equal value, and a
rearranged loop asks paired questions, so that by induction on the filter

    Rearranged .filter (obj f) (obj f') → Compatible (matches? f d) (matches? f' d)
                                                             (agrees, Agrees.clause)

Together with equal documents, this leaves nothing to the order of keys
(matches?_rearranged).
-/

namespace DocStore

open Json (Object Alike)

namespace Filter

/-! ## Rearranged filters -/

/-- Where a value stands in a filter. -/
inductive Place where
  /-- A value that fields are compared with. -/
  | value
  | filter
  /-- The array under `$and` or `$or`. -/
  | clauses
  /-- What stands under a path. -/
  | condition
  /-- What stands under `$elemMatch`. -/
  | element

namespace Place

/-- The place under a key of a filter. -/
def ofEntry (key : String) : Place :=
  if key = "$and" ∨ key = "$or" then clauses else condition

/-- The place under the name of an operator. -/
def ofOperator (name : String) : Place :=
  if name = "$elemMatch" then element
  else if name = "$and" ∨ name = "$or" then clauses
  else value

theorem ofEntry_of_stop {key : String} {stop : Bool} (h : stopOf? key = some stop) :
    ofEntry key = clauses := by
  unfold stopOf? at h
  unfold ofEntry
  split at h
  · next hand => rw [if_pos (.inl hand)]
  · split at h
    · next hor => rw [if_pos (.inr hor)]
    · cases h

theorem ofEntry_of_stop_none {key : String} (h : stopOf? key = none) :
    ofEntry key = condition := by
  unfold stopOf? at h
  unfold ofEntry
  split at h
  · cases h
  · next hand =>
    split at h
    · cases h
    · next hor => rw [if_neg (not_or.2 ⟨hand, hor⟩)]

theorem ofOperator_elemMatch {name : String} (h : Operator.ofName? name = some .elemMatch) :
    ofOperator name = element := by
  unfold Operator.ofName? at h
  split at h
  all_goals first | rfl | cases h

theorem ofOperator_value {name : String} {op : Operator} (h : Operator.ofName? name = some op)
    (hop : op ≠ .elemMatch) : ofOperator name = value := by
  have helem : name ≠ "$elemMatch" := by
    rintro rfl
    cases h
    exact hop rfl
  have hclauses : ¬ (name = "$and" ∨ name = "$or") := by
    rintro (rfl | rfl) <;> cases h
  unfold ofOperator
  rw [if_neg helem, if_neg hclauses]

/-- The place under a key of an object that stands at a place. -/
def under (place : Place) (o : Object) (key : String) : Place :=
  match place with
  | value | clauses => value
  | filter => ofEntry key
  | condition => if isOperators o then ofOperator key else value
  | element => if isOperators o then ofOperator key else ofEntry key

end Place

/-- The second value is the first with the keys of objects in another order, at any depth,
and with the clauses of `$and` and `$or` in another order; an array under such a key of a
literal is a value like any other. -/
inductive Rearranged : Place → Json → Json → Prop
  | refl (place : Place) (v : Json) : Rearranged place v v
  | items {place : Place} {xs ys : List Json} : place ≠ .clauses →
      List.Forall₂ (Rearranged .value) xs ys → Rearranged place (.arr xs) (.arr ys)
  | clauses {xs ys zs : List Json} : List.Forall₂ (Rearranged .filter) xs ys → ys.Perm zs →
      Rearranged .clauses (.arr xs) (.arr zs)
  | entries {place : Place} {o q : Object} : o.keys.Perm q.keys →
      (∀ key v w, o.get? key = some v → q.get? key = some w →
        Rearranged (place.under o key) v w) →
      Rearranged place (.obj o) (.obj q)

/-- In objects of the same keys side by side, the entries of one key are beside each other. -/
theorem beside_of_forall₂ {R : String × Json → String × Json → Prop} {o p : Object}
    (ho : o.Distinct) (h : List.Forall₂ (fun e e' => e.1 = e'.1 ∧ R e e') o p) :
    ∀ e ∈ o, ∀ e' ∈ p, e.1 = e'.1 → R e e' := by
  induction h with
  | nil => exact nofun
  | @cons e e' o p he h ih =>
    obtain ⟨hfresh, ho⟩ := List.nodup_cons.1 ho
    have hkeys : Object.keys o = Object.keys p := map_eq_of_forall₂ (h.imp fun _ _ he => he.1)
    intro x hx y hy hxy
    rcases List.mem_cons.1 hx with rfl | hx <;> rcases List.mem_cons.1 hy with rfl | hy
    · exact he.2
    · have hy : y.1 ∈ Object.keys p := List.mem_map_of_mem hy
      rw [← hxy, ← hkeys] at hy
      exact absurd hy hfresh
    · have hx : x.1 ∈ Object.keys o := List.mem_map_of_mem hx
      rw [hxy, ← he.1] at hx
      exact absurd hx hfresh
    · exact ih ho x hx y hy hxy

/-- To rearrange an object: its values in their places, and then its entries. -/
theorem Rearranged.of_forall₂ {place : Place} {o p q : Object} (ho : o.Distinct)
    (hp : p.Perm q)
    (h : List.Forall₂ (fun e e' => e.1 = e'.1 ∧ Rearranged (place.under o e.1) e.2 e'.2) o p) :
    Rearranged place (.obj o) (.obj q) := by
  have hkeys : o.keys = p.keys := map_eq_of_forall₂ (h.imp fun _ _ he => he.1)
  refine .entries ?_ fun key v w hv hw => ?_
  · rw [hkeys]
    exact hp.map _
  · exact beside_of_forall₂ (R := fun e e' => Rearranged (place.under o e.1) e.2 e'.2) ho h
      (key, v) (Object.mem_of_get? hv) (key, w) (hp.mem_iff.2 (Object.mem_of_get? hw)) rfl

/-- A rearranged literal is the same value. -/
theorem Rearranged.alike {v w : Json} (h : Rearranged .value v w) (hv : v.WellFormed)
    (hw : w.WellFormed) : Alike v w := by
  induction v using Json.induction generalizing w with
  | null | bool _ | num _ | str _ =>
    cases h
    exact .refl hv
  | arr xs ih =>
    cases h with
    | refl => exact .refl hv
    | items _ hitems =>
      exact .arr (forall₂_of_mem hitems
        fun x hx y hy hxy => ih x hx hxy (hv.item x hx) (hw.item y hy))
  | obj o ih =>
    cases h with
    | refl => exact .refl hv
    | entries hkeys hvalues =>
      refine .obj hv.distinct hw.distinct hkeys fun key v w hget hget' => ?_
      exact ih _ (Object.mem_of_get? hget) (hvalues key v w hget hget') (hv.get? hget)
        (hw.get? hget')

/-! ## Reading operators -/

theorem isOperators_iff (o : Object) :
    isOperators o = true ↔ (∃ k, k ∈ o.keys) ∧ oidKey ∉ o.keys ∧
      ∀ k ∈ o.keys, startsWithDollar k = true := by
  have hempty : o.isEmpty = false ↔ ∃ k, k ∈ o.keys := by
    cases o with
    | nil => simp [Object.keys]
    | cons e o => simp [Object.keys]
  have hoid : o.contains oidKey = false ↔ oidKey ∉ o.keys := by
    rw [← Object.get?_eq_none_iff, Object.contains, Option.isSome_eq_false_iff,
      Option.isNone_iff_eq_none]
  rw [isOperators, Bool.and_eq_true, Bool.and_eq_true, Bool.not_eq_true', Bool.not_eq_true',
    hempty, hoid, List.all_eq_true, and_assoc]

theorem operators?_ok_iff (o : Object) (ops : Bool) :
    operators? o = .ok ops ↔ isOperators o = ops ∧
      (ops = true → ∀ k ∈ o.keys, (Operator.ofName? k).isSome) := by
  unfold operators?
  cases isOperators o with
  | false => cases ops <;> simp
  | true =>
    rw [if_pos rfl]
    split
    · next k hk =>
      have hunknown : Operator.ofName? k = none := by simpa using List.find?_some hk
      constructor
      · nofun
      · rintro ⟨hops, hknown⟩
        have hk := hknown hops.symm k (List.mem_of_find?_eq_some hk)
        rw [hunknown] at hk
        cases hk
    · next hk =>
      have hknown : ∀ k ∈ o.keys, (Operator.ofName? k).isSome := by
        simpa [Option.isSome_iff_ne_none] using List.find?_eq_none.1 hk
      simpa using fun _ => hknown

theorem operators?_of_not_isOperators {o : Object} (h : isOperators o = false) :
    operators? o = .ok false := by
  unfold operators?
  rw [h]
  rfl

/-- Whether an object holds operators does not depend on the order of its keys. -/
theorem operators?_perm {o q : Object} (h : o.keys.Perm q.keys) {ops : Bool}
    (ho : operators? o = .ok ops) : operators? q = .ok ops := by
  rw [operators?_ok_iff] at ho ⊢
  refine ⟨?_, ?_⟩
  · rw [← ho.1, Bool.eq_iff_iff, isOperators_iff, isOperators_iff]
    simp only [h.mem_iff]
  · simpa only [h.mem_iff] using ho.2

/-- An operator with values for its operand asks the same of a field for values that are
equal. -/
theorem matchOperator_right {name : String} {op : Operator}
    (hop : Operator.ofName? name = some op) (helem : op ≠ .elemMatch) {v w : Json}
    (h : Alike v w) (flags : String) (a : Option Json) :
    matchOperator flags name v a = matchOperator flags name w a := by
  have hequals : ∀ {xs ys : List Json}, List.Forall₂ Alike xs ys →
      xs.any (equals a) = ys.any (equals a) := fun hitems =>
    any_eq_of_forall₂ (hitems.imp fun _ _ hxy => equals_right hxy a)
  unfold matchOperator
  cases op with
  | elemMatch => exact absurd rfl helem
  | isIn | nin =>
    simp only [hop]
    cases h with
    | arr hitems => simp only [hequals hitems]
    | _ => rfl
  | regex =>
    simp only [hop]
    cases h <;> rfl
  | _ => simp only [hop, equals_right h, inRange_right h, h.bool?_eq]

/-! ## Rearrangements do not contradict -/

/-- What stands somewhere in a filter is not contradicted by what it is rearranged to. -/
structure Agrees (v : Json) : Prop where
  clause : ∀ w, w.WellFormed → Rearranged .filter v w →
    ∀ stop d, Compatible (clause stop d v) (clause stop d w)
  entry : ∀ key w, w.WellFormed → Rearranged (.ofEntry key) v w →
    ∀ d, Compatible (matchEntry key v d) (matchEntry key w d)
  operator : ∀ flags name w, w.WellFormed → Rearranged (.ofOperator name) v w →
    ∀ a, Compatible (matchOperator flags name v a) (matchOperator flags name w a)

/-- Fields of the same keys are paired when those of one key are. -/
theorem paired_fields {o q : Object} (ho : o.Distinct) (hq : q.Distinct)
    (hkeys : o.keys.Perm q.keys) (f : String → Json → Except Fault Bool)
    (hf : ∀ key v w, o.get? key = some v → q.get? key = some w →
      Compatible (f key v) (f key w)) :
    Paired (o.map fun e => f e.1 e.2) (q.map fun e => f e.1 e.2) where
  left a ha := by
    obtain ⟨⟨key, v⟩, he, rfl⟩ := List.mem_map.1 ha
    obtain ⟨⟨key, w⟩, he', rfl⟩ := List.mem_map.1 (hkeys.mem_iff.1 (List.mem_map_of_mem he))
    exact ⟨f key w, List.mem_map_of_mem he',
      hf key v w ((Object.mem_iff_get? ho key v).1 he) ((Object.mem_iff_get? hq key w).1 he')⟩
  right b hb := by
    obtain ⟨⟨key, w⟩, he', rfl⟩ := List.mem_map.1 hb
    obtain ⟨⟨key, v⟩, he, rfl⟩ := List.mem_map.1 (hkeys.mem_iff.2 (List.mem_map_of_mem he'))
    exact ⟨f key v, List.mem_map_of_mem he,
      hf key v w ((Object.mem_iff_get? ho key v).1 he) ((Object.mem_iff_get? hq key w).1 he')⟩

section

variable {o q : Object} (hagrees : ∀ x ∈ (Json.obj o).parts, Agrees x)
  (ho : (Json.obj o).WellFormed) (hq : (Json.obj q).WellFormed) (hkeys : o.keys.Perm q.keys)

include hagrees ho hq hkeys

theorem matchEntries_rearranged
    (h : ∀ key v w, o.get? key = some v → q.get? key = some w → Rearranged (.ofEntry key) v w)
    (d : Object) : Compatible (matchEntries o d) (matchEntries q d) := by
  rw [matchEntries_eq, matchEntries_eq]
  refine (paired_fields ho.distinct hq.distinct hkeys (fun key v => matchEntry key v d)
    fun key v w hv hw => ?_).settle false
  exact (hagrees v (Object.mem_parts (Object.mem_of_get? hv))).entry key w (hq.get? hw)
    (h key v w hv hw) d

theorem matchOperators_rearranged
    (h : ∀ key v w, o.get? key = some v → q.get? key = some w → Rearranged (.ofOperator key) v w)
    (a : Option Json) :
    Compatible (matchOperators (flagsOf o) o a) (matchOperators (flagsOf q) q a) := by
  have hflags : flagsOf o = flagsOf q := by
    have halike : Option.Rel Alike (o.get? optionsKey) (q.get? optionsKey) :=
      Object.rel_get? hkeys fun v w hv hw =>
        Rearranged.alike (h optionsKey v w hv hw) (ho.get? hv) (hq.get? hw)
    unfold flagsOf
    generalize Object.get? o optionsKey = v at halike ⊢
    generalize Object.get? q optionsKey = w at halike ⊢
    cases halike with
    | none => rfl
    | some hvw => exact congrArg (Option.getD · "") hvw.string?_eq
  rw [matchOperators_eq, matchOperators_eq, hflags]
  refine (paired_fields ho.distinct hq.distinct hkeys
    (fun key v => matchOperator (flagsOf q) key v a) fun key v w hv hw => ?_).settle false
  exact (hagrees v (Object.mem_parts (Object.mem_of_get? hv))).operator _ key w (hq.get? hw)
    (h key v w hv hw) a

end

/-- In place of a literal, a rearranged value compares as the value itself. -/
theorem equals_rearranged {v w : Json} (h : Rearranged .value v w) (hv : v.WellFormed)
    (hw : w.WellFormed) (a : Option Json) :
    Compatible (ε := Fault) (.ok (equals a v)) (.ok (equals a w)) :=
  .of_eq (congrArg Except.ok (equals_right (h.alike hv hw) a))

section

variable {v w : Json} (hagrees : ∀ x ∈ v.parts, Agrees x) (hv : v.WellFormed) (hw : w.WellFormed)

include hagrees hv hw

theorem clause_rearranged (h : Rearranged .filter v w) (stop : Bool) (d : Object) :
    Compatible (clause stop d v) (clause stop d w) := by
  cases h with
  | refl => exact .refl _
  | items => exact .refl _
  | entries hkeys hvalues => exact matchEntries_rearranged hagrees hv hw hkeys hvalues d

theorem matchCondition_rearranged (h : Rearranged .condition v w) (a : Option Json) :
    Compatible (matchCondition v a) (matchCondition w a) := by
  cases h with
  | refl => exact .refl _
  | items _ hitems =>
    exact equals_rearranged (.items nofun hitems) hv hw a
  | @entries _ o q hkeys hvalues =>
    cases hops : operators? o with
    | error e =>
      simp only [matchCondition, hops]
      exact .of_error_left e _
    | ok ops =>
      have hreads : isOperators o = ops := ((operators?_ok_iff o ops).1 hops).1
      simp only [matchCondition, hops, operators?_perm hkeys hops]
      cases ops with
      | true =>
        simp only [Place.under, hreads, if_true] at hvalues
        exact matchOperators_rearranged hagrees hv hw hkeys hvalues a
      | false =>
        simp only [Place.under, hreads] at hvalues
        exact equals_rearranged (.entries hkeys hvalues) hv hw a

theorem matchElements_rearranged (h : Rearranged .element v w) (xs : List Json) :
    Compatible (matchElements v xs) (matchElements w xs) := by
  cases h with
  | refl => exact .refl _
  | items => exact .refl _
  | @entries _ o q hkeys hvalues =>
    cases hops : operators? o with
    | error e =>
      simp only [matchElements, hops]
      exact .of_error_left e _
    | ok ops =>
      have hreads : isOperators o = ops := ((operators?_ok_iff o ops).1 hops).1
      simp only [matchElements, hops, operators?_perm hkeys hops]
      refine (Paired.map fun x _ => ?_).settle true
      simp only [Place.under, hreads] at hvalues
      cases ops with
      | true => exact matchOperators_rearranged hagrees hv hw hkeys hvalues (some x)
      | false =>
        cases x with
        | obj d => exact matchEntries_rearranged hagrees hv hw hkeys hvalues d
        | _ => exact .refl _

/-- The clauses of both, if they are arrays, stand beside each other. -/
theorem paired_clauses (h : Rearranged .clauses v w) (stop : Bool) (d : Object) :
    Paired ((v.items?.getD []).map (clause stop d)) ((w.items?.getD []).map (clause stop d)) := by
  cases h with
  | refl => exact .of_perm (.refl _)
  | items hplace => exact absurd rfl hplace
  | entries => exact .of_perm (.refl _)
  | @clauses xs ys zs hitems hp =>
    have hcompatible : List.Forall₂ (fun x y => Compatible (clause stop d x) (clause stop d y))
        xs ys :=
      forall₂_of_mem hitems fun x hx y hy hxy =>
        (hagrees x hx).clause y (hw.item y (hp.mem_iff.1 hy)) hxy stop d
    refine (Paired.of_forall₂ ?_).perm_right (hp.map (clause stop d))
    rw [List.forall₂_map_left_iff, List.forall₂_map_right_iff]
    exact hcompatible

theorem matchEntry_rearranged (key : String) (h : Rearranged (.ofEntry key) v w) (d : Object) :
    Compatible (matchEntry key v d) (matchEntry key w d) := by
  cases hstop : stopOf? key with
  | none =>
    rw [Place.ofEntry_of_stop_none hstop] at h
    rw [matchEntry_condition hstop, matchEntry_condition hstop]
    split
    · exact .refl _
    · exact matchCondition_rearranged hagrees hv hw h _
  | some stop =>
    rw [Place.ofEntry_of_stop hstop] at h
    rw [matchEntry_clauses hstop, matchEntry_clauses hstop]
    cases checkClauses key v with
    | error e => exact .of_error_left e _
    | ok _ =>
      cases checkClauses key w with
      | error e => exact .of_error_right _ e
      | ok _ => exact (paired_clauses hagrees hv hw h stop d).settle stop

theorem matchOperator_rearranged (flags name : String) (h : Rearranged (.ofOperator name) v w)
    (a : Option Json) :
    Compatible (matchOperator flags name v a) (matchOperator flags name w a) := by
  cases hop : Operator.ofName? name with
  | none =>
    unfold matchOperator
    simp only [hop]
    exact .refl _
  | some op =>
    by_cases helem : op = .elemMatch
    · rw [helem] at hop
      rw [Place.ofOperator_elemMatch hop] at h
      rw [matchOperator_elemMatch hop, matchOperator_elemMatch hop]
      split
      · exact matchElements_rearranged hagrees hv hw h _
      · exact .refl _
    · rw [Place.ofOperator_value hop helem] at h
      exact .of_eq (matchOperator_right hop helem (h.alike hv hw) flags a)

end

theorem agrees (v : Json) (hv : v.WellFormed) : Agrees v := by
  induction v using Json.induction_parts with
  | step v ih =>
    have hparts : ∀ x ∈ v.parts, Agrees x := fun x hx => ih x hx (hv.part x hx)
    exact ⟨fun w hw => clause_rearranged hparts hv hw,
      fun key w hw => matchEntry_rearranged hparts hv hw key,
      fun flags name w hw => matchOperator_rearranged hparts hv hw flags name⟩

/-- Equal documents and a filter with its keys and clauses in any order: what two of them
answer is the same, and of one filter they answer the same altogether. -/
theorem matches?_rearranged {d d' : Object} (hd : (Json.obj d).WellFormed)
    (hd' : (Json.obj d').WellFormed) (h : (Json.obj d).same (.obj d') = true) :
    (∀ f, matches? f d = matches? f d') ∧
    ∀ f f', (Json.obj f).WellFormed → (Json.obj f').WellFormed →
      Rearranged .filter (.obj f) (.obj f') →
      ∀ b b', matches? f d = .ok b → matches? f' d' = .ok b' → b = b' := by
  have halike := Json.alike_of_same hd hd' h
  refine ⟨fun f => matches?_alike f halike, fun f f' hf hf' hr b b' hb hb' => ?_⟩
  rw [matches?_alike f halike] at hb
  exact (agrees (.obj f) hf).clause (.obj f') hf' hr false d' b b' hb hb'

/-- A filter of alternatives, one with a literal and one for elements. -/
def labelled : Object :=
  [("$or", .arr [
      .obj [("size", .obj [("w", .null), ("h", .bool true)])],
      .obj [("tags", .obj [("$elemMatch", .obj [("k", .str "x"), ("v", .null)])])]]),
    ("on", .obj [("$exists", .bool true), ("$ne", .null)])]

/-- The same with its alternatives and all its keys the other way round. -/
def turned : Object :=
  [("on", .obj [("$ne", .null), ("$exists", .bool true)]),
    ("$or", .arr [
      .obj [("tags", .obj [("$elemMatch", .obj [("v", .null), ("k", .str "x")])])],
      .obj [("size", .obj [("h", .bool true), ("w", .null)])]])]

/-- A label that both match. -/
def label : Object :=
  [("on", .bool true), ("tags", .arr [.null, .obj [("k", .str "x"), ("v", .null)]])]

/-- The same label with all its keys the other way round. -/
def turnedLabel : Object :=
  [("tags", .arr [.null, .obj [("v", .null), ("k", .str "x")]]), ("on", .bool true)]

theorem matches?_turned :
    Rearranged .filter (.obj labelled) (.obj turned) ∧
    (Json.obj label).same (.obj turnedLabel) = true ∧
    matches? labelled label = .ok true ∧ matches? labelled turnedLabel = .ok true ∧
    matches? turned turnedLabel = .ok true := by
  have hsize : Rearranged .filter (.obj [("size", .obj [("w", .null), ("h", .bool true)])])
      (.obj [("size", .obj [("h", .bool true), ("w", .null)])]) := by
    refine .of_forall₂ (by decide) (.refl _) (.cons ⟨rfl, ?_⟩ .nil)
    exact .of_forall₂ (by decide) (.swap _ _ _)
      (.cons ⟨rfl, .refl _ _⟩ (.cons ⟨rfl, .refl _ _⟩ .nil))
  have htags : Rearranged .filter
      (.obj [("tags", .obj [("$elemMatch", .obj [("k", .str "x"), ("v", .null)])])])
      (.obj [("tags", .obj [("$elemMatch", .obj [("v", .null), ("k", .str "x")])])]) := by
    refine .of_forall₂ (by decide) (.refl _) (.cons ⟨rfl, ?_⟩ .nil)
    refine .of_forall₂ (by decide) (.refl _) (.cons ⟨rfl, ?_⟩ .nil)
    exact .of_forall₂ (by decide) (.swap _ _ _)
      (.cons ⟨rfl, .refl _ _⟩ (.cons ⟨rfl, .refl _ _⟩ .nil))
  have hr : Rearranged .filter (.obj labelled) (.obj turned) := by
    refine .of_forall₂ (by decide) (.swap _ _ _) (.cons ⟨rfl, ?_⟩ (.cons ⟨rfl, ?_⟩ .nil))
    · exact .clauses (.cons hsize (.cons htags .nil)) (.swap _ _ _)
    · exact .of_forall₂ (by decide) (.swap _ _ _)
        (.cons ⟨rfl, .refl _ _⟩ (.cons ⟨rfl, .refl _ _⟩ .nil))
  have hsame : (Json.obj label).same (.obj turnedLabel) = true := by decide
  have hlabel : (Json.obj label).WellFormed := by
    simp [label, Object.Distinct, Object.keys]
  have hturnedLabel : (Json.obj turnedLabel).WellFormed := by
    simp [turnedLabel, Object.Distinct, Object.keys]
  have hlabelled : (Json.obj labelled).WellFormed := by
    simp [labelled, Object.Distinct, Object.keys]
  have hturned : (Json.obj turned).WellFormed := by
    simp [turned, Object.Distinct, Object.keys]
  obtain ⟨hone, hany⟩ := matches?_rearranged hlabel hturnedLabel hsame
  obtain ⟨b, hb⟩ : ∃ b, matches? turned turnedLabel = .ok b := ⟨_, rfl⟩
  have hm : matches? labelled label = .ok true := rfl
  refine ⟨hr, hsame, hm, (hone labelled).symm.trans hm, ?_⟩
  rw [hb, hany labelled turned hlabelled hturned hr true b hm hb]

end Filter

end DocStore
