import DocStore.Proofs.Atomicity

/-!
Indexes of a collection: written once, and apart from the documents.

A definition is appended when its name is new, and nothing else is ever done to the definitions of
a collection, so that each write keeps those that are there and a run keeps them all:

    e.indexes coll <+: (e.after call).indexes coll           (indexes_prefix_after)
    e.definition? coll index = some d →
      (e.run calls).definition? coll index = some d          (definition?_run)

The names of the indexes are those that a call of the run has defined, or found defined alike
                                                             (isSome_definition?_run_iff).
-/

namespace DocStore

open Json (Object)

namespace Engine

/-! ## Definitions -/

/-- The indexes of a collection in the order of their definition; none for one that does not
exist. -/
def indexes (e : Engine) (coll : String) : List (String × Object) :=
  ((e.collection? coll).map (·.indexes)).getD []

/-- The keys that an index is defined with. -/
def definition? (e : Engine) (coll index : String) : Option Object :=
  (e.indexes coll).lookup index

theorem indexes_getD (e : Engine) (coll : String) :
    ((e.collection? coll).getD {}).indexes = e.indexes coll := by
  unfold indexes
  cases e.collection? coll <;> rfl

theorem indexes_put (e : Engine) (coll : String) (c : Collection) (name : String) :
    (e.put coll c).indexes name = if name = coll then c.indexes else e.indexes name := by
  unfold indexes
  rw [collection?_put]
  split <;> rfl

/-- To write the documents of a collection leaves all indexes as they are. -/
theorem indexes_put_documents {e : Engine} {coll : String} {c : Collection}
    (hc : (e.collection? coll).getD {} = c) (docs : List Object) (name : String) :
    (e.put coll { c with documents := docs }).indexes name = e.indexes name := by
  rw [indexes_put]
  split
  · next hn => rw [hn, ← indexes_getD, hc]
  · rfl

theorem mem_indexNames (e : Engine) (coll index : String) :
    index ∈ e.indexNames coll ↔ (e.definition? coll index).isSome = true := by
  have hnames : e.indexNames coll = sortTexts ((e.indexes coll).map (·.1)) := by
    unfold indexNames indexes
    cases e.collection? coll <;> rfl
  have hnone : e.definition? coll index = none ↔ index ∉ (e.indexes coll).map (·.1) := by
    unfold definition?
    rw [List.lookup_eq_none_iff]
    constructor
    · intro h hm
      obtain ⟨entry, hentry, rfl⟩ := List.mem_map.1 hm
      exact bne_iff_ne.1 (h entry hentry) rfl
    · rintro h entry hentry
      refine bne_iff_ne.2 ?_
      rintro rfl
      exact h (List.mem_map_of_mem hentry)
  rw [hnames, mem_sortTexts, ← not_iff_not, ← hnone, Bool.not_eq_true,
    Option.isSome_eq_false_iff, Option.isNone_iff_eq_none]

/-! ## Defining an index -/

/-- The answer of a definition. -/
def indexAnswer (e : Engine) (coll index : String) (keys : Object) : Except Fault Unit :=
  if keys.isEmpty then .error (.indexNoKeys index)
  else
    match e.definition? coll index with
    | some d => if (Json.obj d).same (.obj keys) then .ok () else .error (.indexDiffers index)
    | none => .ok ()

/-- A definition is appended when it has keys and its name is new. -/
theorem createIndex_eq_indexAnswer (e : Engine) (coll index : String) (keys : Object) :
    e.createIndex coll index keys =
      (e.indexAnswer coll index keys,
        if keys.isEmpty = false ∧ e.definition? coll index = none then
          e.put coll
            { documents := e.documents coll, indexes := e.indexes coll ++ [(index, keys)] }
        else e) := by
  unfold createIndex indexAnswer definition?
  rw [← indexes_getD, ← documents_getD]
  cases keys.isEmpty with
  | true => simp
  | false =>
    cases hd : ((e.collection? coll).getD {}).indexes.lookup index with
    | none => simp [hd]
    | some d =>
      simp only [hd, Bool.false_eq_true, if_false, reduceCtorEq, and_false]
      split <;> rfl

theorem createIndex_ok_iff (e : Engine) (coll index : String) (keys : Object) :
    (e.createIndex coll index keys).1 = .ok () ↔
      keys ≠ [] ∧
        ∀ d, e.definition? coll index = some d → (Json.obj d).same (.obj keys) = true := by
  rw [createIndex_eq_indexAnswer]
  unfold indexAnswer
  cases keys with
  | nil => simp
  | cons entry keys =>
    cases e.definition? coll index with
    | none => simp
    | some d => simp

/-- To define an index fails with a fault of that kind. -/
theorem createIndex_refused {e : Engine} {coll index : String} {keys : Object} {fault : Fault}
    (h : (e.createIndex coll index keys).1 = .error fault) :
    ∃ reason, fault.toStoreError = .indexCreation reason := by
  rw [createIndex_eq_indexAnswer] at h
  unfold indexAnswer at h
  split at h
  · cases h
    exact ⟨_, rfl⟩
  · split at h
    · split at h <;> cases h
      exact ⟨_, rfl⟩
    · cases h

/-- The definitions of a collection after one of an index. -/
theorem indexes_createIndex (e : Engine) (coll index : String) (keys : Object) (name : String) :
    (e.createIndex coll index keys).2.indexes name = e.indexes name ++
      if name = coll ∧ keys.isEmpty = false ∧ e.definition? coll index = none then
        [(index, keys)]
      else [] := by
  rw [createIndex_eq_indexAnswer]
  by_cases hnew : keys.isEmpty = false ∧ e.definition? coll index = none
  · simp only [hnew, and_self, if_true, and_true, indexes_put]
    split
    · next hn => rw [hn]
    · rw [List.append_nil]
  · simp only [hnew, and_false, if_false, List.append_nil]

/-- To define an index alters no document. -/
theorem documents_createIndex (e : Engine) (coll index : String) (keys : Object) (name : String) :
    (e.createIndex coll index keys).2.documents name = e.documents name := by
  rw [createIndex_eq_indexAnswer]
  simp only
  split
  · rw [documents_put]
    split
    · next hn => rw [hn]
    · rfl
  · rfl

/-! ## Writes of documents -/

theorem indexes_changeOne (e : Engine) (coll : String) (filter : Object)
    (change : Object → Option Object) (name : String) :
    (e.changeOne coll filter change).2.indexes name = e.indexes name := by
  rcases changeOne_cases e coll filter change with he | ⟨c, n, left, hc, -, he⟩
  · rw [he]
  · rw [he]
    exact indexes_put_documents (by rw [hc, Option.getD_some]) left name

/-- The call defines an index. -/
def Call.definesIndex : Call → Bool
  | .createIndex .. => true
  | _ => false

/-- A write of documents alters no index. -/
theorem indexes_after {call : Call} (h : call.definesIndex = false) (e : Engine) (name : String) :
    (e.after call).indexes name = e.indexes name := by
  cases call with
  | insertOne coll fresh doc =>
    show (e.insertOne coll fresh doc.fields).2.indexes name = _
    cases hid : idFor fresh doc.fields with
    | error cause =>
      unfold insertOne
      rw [hid]
    | ok id =>
      rw [insertOne_of_idFor hid]
      split
      · rfl
      · exact indexes_put_documents rfl _ name
  | replaceOne coll filter replacement => exact indexes_changeOne e coll filter _ name
  | updateOne coll filter u => exact indexes_changeOne e coll filter _ name
  | deleteOne coll filter => exact indexes_changeOne e coll filter _ name
  | deleteMany coll filter =>
    show (e.deleteMany coll filter).2.indexes name = _
    unfold deleteMany
    cases hc : e.collection? coll with
    | none => rfl
    | some c => exact indexes_put_documents (by rw [hc, Option.getD_some]) _ name
  | createIndex coll index keys => cases h

/-! ## Runs -/

/-- A write keeps the definitions that are there, where they are. -/
theorem indexes_prefix_after (e : Engine) (call : Call) (coll : String) :
    e.indexes coll <+: (e.after call).indexes coll := by
  cases hcall : call.definesIndex with
  | false =>
    exact ⟨[], by rw [List.append_nil, indexes_after hcall]⟩
  | true =>
    cases call with
    | createIndex coll' index keys =>
      show _ <+: (e.createIndex coll' index keys).2.indexes coll
      rw [indexes_createIndex]
      exact List.prefix_append _ _
    | _ => cases hcall

theorem definition?_after {e : Engine} {coll index : String} {d : Object}
    (h : e.definition? coll index = some d) (call : Call) :
    (e.after call).definition? coll index = some d := by
  obtain ⟨added, hadded⟩ := e.indexes_prefix_after call coll
  unfold definition? at h ⊢
  rw [← hadded, List.lookup_append, h, Option.some_or]

/-- What an index is defined with stays so. -/
theorem definition?_run {e : Engine} {coll index : String} {d : Object}
    (h : e.definition? coll index = some d) (calls : List Call) :
    (e.run calls).definition? coll index = some d :=
  run_induction (P := fun e => e.definition? coll index = some d)
    (fun _ call h => definition?_after h call) calls e h

/-- After a definition that succeeds, the index has the keys that it had, or else those. -/
theorem definition?_createIndex {e : Engine} {coll index : String} {keys : Object}
    (h : (e.createIndex coll index keys).1 = .ok ()) :
    (e.createIndex coll index keys).2.definition? coll index
      = some ((e.definition? coll index).getD keys) := by
  cases hd : e.definition? coll index with
  | some d => exact definition?_after hd (.createIndex coll index keys)
  | none =>
    have hkeys : keys.isEmpty = false :=
      List.isEmpty_eq_false_iff.2 ((e.createIndex_ok_iff coll index keys).1 h).1
    have hnew : (e.createIndex coll index keys).2.indexes coll
        = e.indexes coll ++ [(index, keys)] := by
      rw [indexes_createIndex, if_pos ⟨rfl, hkeys, hd⟩]
    unfold definition? at hd ⊢
    rw [hnew, List.lookup_append, hd, List.lookup_cons_self]
    rfl

/-- At some point of the run, to define the index succeeded. -/
def Defines (e : Engine) (calls : List Call) (coll index : String) : Prop :=
  ∃ before keys after, calls = before ++ .createIndex coll index keys :: after ∧
    ((e.run before).createIndex coll index keys).1 = .ok ()

theorem defines_cons_iff (e : Engine) (call : Call) (calls : List Call) (coll index : String) :
    Defines e (call :: calls) coll index ↔
      (∃ keys, call = .createIndex coll index keys ∧
        (e.createIndex coll index keys).1 = .ok ()) ∨
      Defines (e.after call) calls coll index := by
  constructor
  · rintro ⟨before, keys, after, hcalls, hok⟩
    cases before with
    | nil =>
      cases hcalls
      exact .inl ⟨keys, rfl, hok⟩
    | cons _ before =>
      cases hcalls
      exact .inr ⟨before, keys, after, rfl, hok⟩
  · rintro (⟨keys, rfl, hok⟩ | ⟨before, keys, after, rfl, hok⟩)
    · exact ⟨[], keys, calls, rfl, hok⟩
    · exact ⟨call :: before, keys, after, rfl, hok⟩

/-- An index that is new after a definition is the one that it has defined. -/
theorem createIndex_ok_of_new {e : Engine} {coll coll' index index' : String} {keys : Object}
    (hnone : e.definition? coll index = none)
    (h : ((e.createIndex coll' index' keys).2.definition? coll index).isSome = true) :
    coll' = coll ∧ index' = index ∧ (e.createIndex coll' index' keys).1 = .ok () := by
  have hold : (e.indexes coll).lookup index = none := hnone
  unfold definition? at h
  rw [indexes_createIndex, List.lookup_append, hold, Option.none_or] at h
  split at h
  · next hnew =>
    obtain ⟨rfl, hkeys, hnew⟩ := hnew
    have hindex : index' = index := by
      by_contra hne
      rw [List.lookup_cons, beq_eq_false_iff_ne.2 (Ne.symm hne)] at h
      cases h
    refine ⟨rfl, hindex, (e.createIndex_ok_iff _ _ keys).2 ⟨List.isEmpty_eq_false_iff.1 hkeys, ?_⟩⟩
    rw [hnew]
    exact nofun
  · cases h

/-- The indexes that a write leaves are those that were there and the one that it has defined. -/
theorem isSome_definition?_after_iff (e : Engine) (call : Call) (coll index : String) :
    ((e.after call).definition? coll index).isSome = true ↔
      (e.definition? coll index).isSome = true ∨
      ∃ keys, call = .createIndex coll index keys ∧
        (e.createIndex coll index keys).1 = .ok () := by
  constructor
  · intro h
    cases hd : e.definition? coll index with
    | some d => exact .inl rfl
    | none =>
      refine .inr ?_
      cases hcall : call.definesIndex with
      | false =>
        unfold definition? at h hd
        rw [indexes_after hcall, hd] at h
        cases h
      | true =>
        cases call with
        | createIndex coll' index' keys =>
          obtain ⟨rfl, rfl, hok⟩ := createIndex_ok_of_new hd h
          exact ⟨keys, rfl, hok⟩
        | _ => cases hcall
  · rintro (h | ⟨keys, rfl, hok⟩)
    · obtain ⟨d, hd⟩ := Option.isSome_iff_exists.1 h
      rw [definition?_after hd]
      rfl
    · show ((e.createIndex coll index keys).2.definition? coll index).isSome = true
      rw [definition?_createIndex hok]
      rfl

/-- The indexes that a run leaves are those that were there and those that it has defined. -/
theorem isSome_definition?_run_iff (e : Engine) (calls : List Call) (coll index : String) :
    ((e.run calls).definition? coll index).isSome = true ↔
      (e.definition? coll index).isSome = true ∨ Defines e calls coll index := by
  -- the first call either defines the index, or leaves the question to the rest of the run
  induction calls generalizing e with
  | nil =>
    have hnone : ¬ Defines e [] coll index := by
      rintro ⟨before, keys, after, hcalls, -⟩
      exact absurd hcalls.symm (by simp)
    exact (or_iff_left hnone).symm
  | cons call calls ih =>
    rw [defines_cons_iff, ← or_assoc, ← isSome_definition?_after_iff]
    exact ih (e.after call)

/-! ## What a definition does -/

/-- To define an index succeeds when it has keys, and is new or defined with equal ones.  The keys
that it had, or else these, are then its keys after any run.  A definition of one that is there
changes nothing, nor does one that fails; no document is altered. -/
structure DefinesOnce (e : Engine) (coll index : String) (keys : Object) : Prop where
  ok_iff : (e.createIndex coll index keys).1 = .ok () ↔
    keys ≠ [] ∧ ∀ d, e.definition? coll index = some d → (Json.obj d).same (.obj keys) = true
  kept : (e.createIndex coll index keys).1 = .ok () → ∀ calls,
    ((e.createIndex coll index keys).2.run calls).definition? coll index
      = some ((e.definition? coll index).getD keys)
  again : (e.definition? coll index).isSome = true → (e.createIndex coll index keys).2 = e
  refused : ∀ fault, (e.createIndex coll index keys).1 = .error fault →
    (e.createIndex coll index keys).2 = e ∧ ∃ reason, fault.toStoreError = .indexCreation reason
  documents : ∀ name, (e.createIndex coll index keys).2.documents name = e.documents name

theorem definesOnce (e : Engine) (coll index : String) (keys : Object) :
    e.DefinesOnce coll index keys where
  ok_iff := e.createIndex_ok_iff coll index keys
  kept hok calls := definition?_run (definition?_createIndex hok) calls
  again h := by
    rw [createIndex_eq_indexAnswer]
    exact if_neg fun hnew => by simp [hnew.2] at h
  refused fault h := ⟨guarded_createIndex coll index keys e fault h, createIndex_refused h⟩
  documents := e.documents_createIndex coll index keys

/-- In every run from an empty engine, indexes are defined once and for all.  The names of a
collection's indexes are those that the run has defined, ascending and each once; and writes of
documents alter no index. -/
theorem indexes_defined_once (database : String) (calls : List Call) :
    let e := run { database } calls
    (∀ coll index keys, e.DefinesOnce coll index keys) ∧
    (∀ coll, (e.indexNames coll).Pairwise (· < ·) ∧
      ∀ index, index ∈ e.indexNames coll ↔ Defines { database } calls coll index) ∧
    ∀ call : Call, call.definesIndex = false →
      ∀ coll, (e.after call).indexes coll = e.indexes coll := by
  intro e
  refine ⟨e.definesOnce, fun coll => ⟨pairwise_sortTexts _, fun index => ?_⟩,
    fun call hcall => indexes_after hcall e⟩
  rw [mem_indexNames, isSome_definition?_run_iff]
  exact or_iff_right nofun

-- The index outlives the documents.
example :
    (run { database := "app" }
      [.createIndex "books" "by_title" [("title", .bool true)], .deleteMany "books" []]).indexNames
        "books" = ["by_title"] := rfl

end Engine

end DocStore
