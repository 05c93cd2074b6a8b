import DocStore.Proofs.FilteredReads
import DocStore.Proofs.Membership

/-!
Looking up many identifiers at once.

One lookup compares a document's identifier with one value, as an equality, and takes the first
document that it finds; a lookup of many lists the values, and takes every document that equals
one of them.  Both read the texts in one way, so that of documents that are in order

    one text finds the document under its identifier         (findById_eq_iff)
    many find those under any of theirs, where they stand    (findByIds_of_ok)

Identifiers differ from document to document, so many lookups at once are lookups one by one
                                                             (findByIds_gathers).
-/

namespace DocStore

open Json (Object)
open DocStore.Filter

/-! ## Documents under identifiers -/

namespace Keyed

variable {docs : List Object}

/-- The filter of an identifier finds the document under it. -/
theorem hits_idFilter (h : Keyed docs) {doc : Object} (hm : doc ∈ docs) (id : Identifier) :
    hits (Store.idFilter id) doc = Engine.hasId id doc := by
  obtain ⟨id', hid'⟩ := h.written doc hm
  rw [hits_of_ok (Store.matches?_idFilter hid' id), Engine.hasId_eq hid']
  exact decide_eq_decide.2 eq_comm

/-- As a value, an identifier equals the one that a document is under. -/
theorem equals_identifier (h : Keyed docs) {doc : Object} (hm : doc ∈ docs) (id : Identifier) :
    equals (Json.lookup doc idField) id.toJson = Engine.hasId id doc := by
  obtain ⟨id', hid'⟩ := h.written doc hm
  rw [equals_idField hid', Engine.hasId_eq hid']
  exact decide_eq_decide.2 eq_comm

/-- A list of identifiers finds the documents under any of them. -/
theorem matches?_isIn_ids (h : Keyed docs) {doc : Object} (hm : doc ∈ docs)
    (ids : List Identifier) :
    matches? (Constraint.isIn idField (ids.map (·.toJson))).toFilter doc
      = .ok (ids.any (Engine.hasId · doc)) := by
  have hplain : startsWithDollar idField = false := by decide
  rw [matches?_isIn hplain, List.any_map]
  exact congrArg _ (congrArg ids.any (funext (h.equals_identifier hm)))

/-- A document has the identifier exactly when it is written in it. -/
theorem hasId_iff (h : Keyed docs) {doc : Object} (hm : doc ∈ docs) (id : Identifier) :
    Engine.hasId id doc = true ↔ doc.get? idField = some id.toJson := by
  obtain ⟨id', hid'⟩ := h.written doc hm
  rw [Engine.hasId_eq hid', decide_eq_true_iff, hid', Option.some.injEq]
  exact ⟨fun hid => hid ▸ rfl, fun hid => (Identifier.toJson_injective hid).symm⟩

end Keyed

namespace Store

/-! ## Reading the texts -/

/-- Texts that are identifiers are read one by one. -/
theorem readIds_of_ok {texts : List String} {ids : List Identifier}
    (h : List.Forall₂ (fun text id => Identifier.ofText text = .ok id) texts ids) :
    texts.mapM readId = .ok ids := by
  induction h with
  | nil => rfl
  | cons hid _ ih =>
    rw [List.mapM_cons, readId_of_ok hid, ih]
    rfl

/-- The first text that is no identifier is to blame. -/
theorem readIds_of_error {before : List String}
    (hbefore : ∀ t ∈ before, ∃ id, Identifier.ofText t = .ok id) {text : String}
    {cause : Identifier.Fault} (h : Identifier.ofText text = .error cause)
    (after : List String) :
    (before ++ text :: after).mapM readId = .error (.invalidIdentifier cause.message) := by
  induction before with
  | nil =>
    rw [List.nil_append, List.mapM_cons, readId_of_error h]
    rfl
  | cons t before ih =>
    obtain ⟨⟨id, hid⟩, hbefore⟩ := List.forall_mem_cons.1 hbefore
    rw [List.cons_append, List.mapM_cons, readId_of_ok hid, ih hbefore]
    rfl

theorem exists_ids {texts : List String} (h : ∀ t ∈ texts, ∃ id, Identifier.ofText t = .ok id) :
    ∃ ids, List.Forall₂ (fun text id => Identifier.ofText text = .ok id) texts ids :=
  (exists_forall₂_iff texts).2 h

/-! ## One lookup, and many -/

section

variable {s : Store} {coll : String}

/-- What looking up texts one by one shows: their records in the order of the collection, each
once. -/
structure Gathers (s : Store) (coll : String) (texts : List String) (rs : List Record) : Prop where
  ordered : ∃ all, Record.ofDocuments (s.engine.documents coll) = .ok all ∧ rs.Sublist all
  nodup : (rs.map (·.id)).Nodup
  mem_iff : ∀ r, r ∈ rs ↔ ∃ text ∈ texts, (s.findById coll text).1 = .ok (some r)

variable (hs : s.Reachable) (hup : s.bringUp.connection = .up)

include hs hup

/-- One text finds the first document under its identifier. -/
theorem findById_of_ok {text : String} {id : Identifier} (hid : Identifier.ofText text = .ok id) :
    (s.findById coll text).1
      = recordOf ((s.engine.documents coll).filter (Engine.hasId id)).head? := by
  have h := hs.keyed coll
  have hfound : answer (s.engine.findOne coll { filter := idFilter id })
      = .ok ((s.engine.documents coll).filter (Engine.hasId id)).head? := by
    rw [Engine.findOne_eq, Engine.find_of_answers (h.answers_idFilter id),
      List.filter_congr fun doc hm => h.hits_idFilter hm id]
    rfl
  unfold findById
  rw [ask_of_up hup, hs.coherent.bringUp_engine, readId_of_ok hid]
  show answer (s.engine.findOne coll { filter := idFilter id }) >>= recordOf = _
  rw [hfound]
  rfl

/-- Many texts find the documents under any of their identifiers, where they stand. -/
theorem findByIds_of_ok {texts : List String} {ids : List Identifier}
    (hids : List.Forall₂ (fun text id => Identifier.ofText text = .ok id) texts ids) :
    (s.findByIds coll texts).1
      = Record.ofDocuments
          ((s.engine.documents coll).filter fun doc => ids.any (Engine.hasId · doc)) := by
  let filter := (Constraint.isIn idField (ids.map (·.toJson))).toFilter
  have hmatch : ∀ doc ∈ s.engine.documents coll,
      matches? filter doc = .ok (ids.any (Engine.hasId · doc)) :=
    fun doc hm => (hs.keyed coll).matches?_isIn_ids hm ids
  have hfound : answer (s.engine.find coll { filter := filter })
      = .ok ((s.engine.documents coll).filter fun doc => ids.any (Engine.hasId · doc)) := by
    rw [Engine.find_of_answers fun doc hm => ⟨_, hmatch doc hm⟩,
      List.filter_congr fun doc hm => hits_of_ok (hmatch doc hm)]
    rfl
  unfold findByIds
  rw [ask_of_up hup, hs.coherent.bringUp_engine, readIds_of_ok hids]
  show answer (s.engine.find coll { filter := filter }) >>= Record.ofDocuments = _
  rw [hfound]
  rfl

/-- A lookup succeeds, with the record of the document under the identifier. -/
theorem findById_eq_iff {text : String} {id : Identifier}
    (hid : Identifier.ofText text = .ok id) (r : Record) :
    (s.findById coll text).1 = .ok (some r) ↔
      ∃ doc ∈ s.engine.documents coll,
        Engine.hasId id doc = true ∧ Record.ofDocument doc = .ok r := by
  have h := hs.keyed coll
  rw [findById_of_ok hs hup hid]
  constructor
  · intro hr
    cases hfound : ((s.engine.documents coll).filter (Engine.hasId id)).head? with
    | none =>
      rw [hfound] at hr
      cases hr
    | some doc =>
      obtain ⟨hm, hhas⟩ := List.mem_filter.1 (List.mem_of_mem_head? hfound)
      have hself : doc.get? idField = some id.toJson := (h.hasId_iff hm id).1 hhas
      rw [hfound, recordOf_of_id hself] at hr
      cases hr
      exact ⟨doc, hm, hhas, Record.ofDocument_of_id hself⟩
  · rintro ⟨doc, hm, hhas, hr⟩
    have hself : doc.get? idField = some id.toJson := (h.hasId_iff hm id).1 hhas
    have hfilter : (s.engine.documents coll).filter (Engine.hasId id) = [doc] := by
      rw [← h.filter_hits_self hm hself]
      exact List.filter_congr fun d hd => (h.hits_idFilter hd id).symm
    rw [Record.ofDocument_of_id hself, Except.ok.injEq] at hr
    rw [hfilter, ← hr]
    exact recordOf_of_id hself

/-- Many lookups at once show what they show one by one. -/
theorem gathers_of_ok {texts : List String} {ids : List Identifier}
    (hids : List.Forall₂ (fun text id => Identifier.ofText text = .ok id) texts ids) :
    ∃ rs, (s.findByIds coll texts).1 = .ok rs ∧ s.Gathers coll texts rs := by
  let docs := s.engine.documents coll
  have h : Keyed docs := hs.keyed coll
  let test : Object → Bool := fun doc => ids.any (Engine.hasId · doc)
  obtain ⟨all, hall⟩ := h.ofDocuments
  have hrecords := Record.forall₂_of_ofDocuments hall
  have hnodup : (all.map (·.id)).Nodup := (h.shown ⟨_, .refl _, hrecords⟩).1
  obtain ⟨hit, hsplit⟩ := Record.exists_test hrecords hnodup test
  have hfound := Record.ofDocuments_filter hsplit
  have hsublist : (all.filter hit).Sublist all := List.filter_sublist
  refine ⟨all.filter hit, ?_, ⟨all, hall, hsublist⟩, hnodup.sublist (hsublist.map _), fun r => ?_⟩
  · rw [findByIds_of_ok hs hup hids, hfound]
  · have hlookup : ∀ text id, Identifier.ofText text = .ok id →
        ((s.findById coll text).1 = .ok (some r) ↔
          ∃ doc ∈ docs, Engine.hasId id doc = true ∧ Record.ofDocument doc = .ok r) :=
      fun text id hid => findById_eq_iff hs hup hid r
    rw [Record.mem_iff_of_forall₂ (Record.forall₂_of_ofDocuments hfound),
      exists_mem_iff_of_forall₂ hlookup hids]
    -- a document passes the test by one of the identifiers
    simp only [List.mem_filter, test, List.any_eq_true]
    constructor
    · rintro ⟨doc, ⟨hm, id, hid, hhas⟩, hr⟩
      exact ⟨id, hid, doc, hm, hhas, hr⟩
    · rintro ⟨id, hid, doc, hm, hhas, hr⟩
      exact ⟨doc, ⟨hm, id, hid, hhas⟩, hr⟩

end

/-- Many lookups at once are lookups one by one.  A connection that is down fails them all alike.
Else the first text that is no identifier fails them all, as it fails alone; and when there is none
they succeed, with what the texts show one by one. -/
theorem findByIds_gathers {s : Store} (hs : s.Reachable) (coll : String) (texts : List String) :
    (∀ cause, s.bringUp.connection = .down cause →
      (s.findByIds coll texts).1 = .error cause ∧
      ∀ text, (s.findById coll text).1 = .error cause) ∧
    (s.bringUp.connection = .up →
      (∀ before text after cause, texts = before ++ text :: after →
        (∀ t ∈ before, ∃ id, Identifier.ofText t = .ok id) →
        Identifier.ofText text = .error cause →
        (s.findByIds coll texts).1 = .error (.invalidIdentifier cause.message) ∧
        (s.findById coll text).1 = .error (.invalidIdentifier cause.message)) ∧
      ((∀ t ∈ texts, ∃ id, Identifier.ofText t = .ok id) →
        ∃ rs, (s.findByIds coll texts).1 = .ok rs ∧ s.Gathers coll texts rs)) := by
  refine ⟨fun cause hdown => ⟨ask_of_down hdown _, fun text => ask_of_down hdown _⟩,
    fun hup => ⟨?_, fun htexts => ?_⟩⟩
  · rintro before text after cause rfl hbefore hcause
    unfold findByIds findById
    rw [ask_of_up hup, ask_of_up hup, readIds_of_error hbefore hcause, readId_of_error hcause]
    exact ⟨rfl, rfl⟩
  · obtain ⟨ids, hids⟩ := exists_ids htexts
    exact gathers_of_ok hs hup hids

/-- An identifier that repeats one digit. -/
def repeatedId (digit : Nat) : Identifier :=
  ⟨List.replicate 24 (Hex.lowest digit), rfl⟩

/-- Two letters under identifiers that are written with letters. -/
def letters : Engine :=
  let titled (v : Json) : Document := ⟨[("title", v)], List.pairwise_singleton _ _⟩
  Engine.run { database := "app" }
    [.insertOne "letters" (repeatedId 10) (titled (.str "A")),
      .insertOne "letters" (repeatedId 11) (titled (.str "B"))]

theorem reachable_letters : letters.Reachable :=
  ⟨_, _, rfl⟩

/-- The second letter, one that is missing, and the first in both cases. -/
def wantedLetters : List String :=
  ["bbbbbbbbbbbbbbbbbbbbbbbb", "cccccccccccccccccccccccc", "AAAAAAAAAAAAAAAAAAAAAAAA",
    "aaaaaaaaaaaaaaaaaaaaaaaa"]

/-- The two letters come in their order, each once.  A text that is too short fails the lookup of
all. -/
theorem findByIds_gathers_letters :
    ∃ first second, (serving letters).Reachable ∧
      ((serving letters).findByIds "letters" wantedLetters).1 = .ok [first, second] ∧
      first.id = "aaaaaaaaaaaaaaaaaaaaaaaa" ∧ second.id = "bbbbbbbbbbbbbbbbbbbbbbbb" ∧
      ((serving letters).findById "letters" "AAAAAAAAAAAAAAAAAAAAAAAA").1 = .ok (some first) ∧
      ((serving letters).findByIds "letters" ["bbbbbbbbbbbbbbbbbbbbbbbb", "a", "b"]).1
        = .error (.invalidIdentifier (Identifier.faultOf "a").message) := by
  have hs : (serving letters).Reachable := reachable_serving reachable_letters
  have hup : (serving letters).bringUp.connection = .up := serving_up letters
  have hcapital : Identifier.ofText "AAAAAAAAAAAAAAAAAAAAAAAA" = .ok (repeatedId 10) := rfl
  have hlater : Identifier.ofText "bbbbbbbbbbbbbbbbbbbbbbbb" = .ok (repeatedId 11) := rfl
  obtain ⟨first, second, hall, hone, htwo, hid, hid'⟩ : ∃ first second,
      Record.ofDocuments ((serving letters).engine.documents "letters") = .ok [first, second] ∧
      recordOf (((serving letters).engine.documents "letters").filter
        (Engine.hasId (repeatedId 10))).head? = .ok (some first) ∧
      recordOf (((serving letters).engine.documents "letters").filter
        (Engine.hasId (repeatedId 11))).head? = .ok (some second) ∧
      first.id = "aaaaaaaaaaaaaaaaaaaaaaaa" ∧ second.id = "bbbbbbbbbbbbbbbbbbbbbbbb" :=
    ⟨_, _, rfl, rfl, rfl, rfl, rfl⟩
  rw [← findById_of_ok hs hup hcapital] at hone
  rw [← findById_of_ok hs hup hlater] at htwo
  have hwanted : ∀ t ∈ wantedLetters, ∃ id, Identifier.ofText t = .ok id := by
    simp only [wantedLetters, List.forall_mem_cons]
    exact ⟨⟨_, hlater⟩, ⟨repeatedId 12, rfl⟩, ⟨_, hcapital⟩, ⟨repeatedId 10, rfl⟩,
      fun _ h => absurd h List.not_mem_nil⟩
  obtain ⟨rs, hfound, hrs⟩ := ((findByIds_gathers hs "letters" wantedLetters).2 hup).2 hwanted
  -- both are found one by one, so that nothing of the collection is missing
  have hboth : [first, second].Subperm rs := by
    have hids : ([first, second].map (·.id)).Nodup := by simp [hid, hid']
    refine List.subperm_of_subset hids.of_map (List.forall_mem_cons.2 ⟨?_, ?_⟩)
    · exact (hrs.mem_iff first).2 ⟨_, by simp [wantedLetters], hone⟩
    · exact List.forall_mem_singleton.2 ((hrs.mem_iff second).2 ⟨_, by simp [wantedLetters], htwo⟩)
  obtain ⟨all, hall', hsublist⟩ := hrs.ordered
  rw [hall, Except.ok.injEq] at hall'
  rw [← hall'] at hsublist
  rw [hsublist.eq_of_length_le hboth.length_le] at hfound
  have hfault := ((findByIds_gathers hs "letters" _).2 hup).1
    ["bbbbbbbbbbbbbbbbbbbbbbbb"] "a" ["b"] (Identifier.faultOf "a") rfl
    (List.forall_mem_singleton.2 ⟨_, hlater⟩) rfl
  exact ⟨first, second, hs, hfound, hid, hid', hone, hfault.1⟩

end Store

end DocStore
