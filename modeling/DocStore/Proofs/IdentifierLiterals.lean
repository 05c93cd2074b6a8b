import DocStore.Proofs.IdentifierForms
import DocStore.Proofs.ManyLookups

/-!
Identifier literals in predicates.

A predicate compares the identifier of a document with its literal as a value, as the literal is
spelled; a lookup by identifier reads the text first. Written identifiers have no capital letters,
so that

    a literal without capitals finds the document under the identifier
    a literal with capitals finds nothing                    (equals_literal)

and a search by a literal shows the record that the lookup shows, or none
                                                             (find_literal).
-/

namespace DocStore

open Json (Object)
open DocStore.Filter

/-! ## Documents -/

/-- The text has no capital letters. -/
def IsLower (text : String) : Prop :=
  text.map Char.toLower = text

instance (text : String) : Decidable (IsLower text) :=
  inferInstanceAs (Decidable (_ = _))

namespace Identifier

/-- Of the spellings of an identifier, its text is the one without capitals. -/
theorem eq_hex_iff {text : String} {id : Identifier} (h : ofText text = .ok id) :
    text = id.hex ↔ IsLower text := by
  rw [← (ofText_eq_ok_iff text id).1 h]
  exact eq_comm

theorem same_literal (id : Identifier) (text : String) :
    id.toJson.same (literal text) = decide (id.hex = text) := by
  simp [toJson, literal, Json.same, Json.sameFields, Json.Object.get?_cons, beq_eq_decide]

end Identifier

namespace Keyed

variable {docs : List Object} {text : String} {id : Identifier}

/-- A document equals a literal when it is under its identifier, and the literal has no
capitals. -/
theorem equals_literal (h : Keyed docs) {doc : Object} (hm : doc ∈ docs)
    (hid : Identifier.ofText text = .ok id) :
    equals (Json.lookup doc idField) (Identifier.literal text)
      = (decide (IsLower text) && Engine.hasId id doc) := by
  obtain ⟨id', hid'⟩ := h.written doc hm
  have hsame : equals (some id'.toJson) (Identifier.literal text) = decide (id'.hex = text) :=
    id'.same_literal text
  rw [Json.lookup_idField hid', hsame, Engine.hasId_eq hid', Bool.eq_iff_iff, Bool.and_eq_true,
    decide_eq_true_iff, decide_eq_true_iff, decide_eq_true_iff, ← Identifier.eq_hex_iff hid]
  constructor
  · intro htext
    -- what is written is read back, so that no other identifier has this text
    have hsame : id' = id := by
      rw [← htext, id'.ofText_hex] at hid
      exact Except.ok.inj hid
    rw [← htext, hsame]
    exact ⟨rfl, rfl⟩
  · rintro ⟨htext, hid⟩
    rw [htext, hid]

/-- At most one document is under an identifier. -/
theorem exists_filter_hasId (h : Keyed docs) (id : Identifier) :
    ∃ found : Option Object, docs.filter (Engine.hasId id) = found.toList := by
  by_cases hany : ∃ doc ∈ docs, Engine.hasId id doc = true
  · obtain ⟨doc, hm, hhas⟩ := hany
    refine ⟨some doc, ?_⟩
    rw [← List.filter_congr fun d hd => h.hits_idFilter hd id]
    exact h.filter_hits_self hm ((h.hasId_iff hm id).1 hhas)
  · refine ⟨none, List.filter_eq_nil_iff.2 fun doc hm hhas => hany ⟨doc, hm, hhas⟩⟩

end Keyed

/-! ## Searches -/

namespace Store

/-- Predicates that search for an identifier by a literal. -/
inductive ByLiteral (text : String) : Predicate → Prop
  | filter : ByLiteral text (.filter [(idField, Identifier.literal text)])
  | isIn : ByLiteral text (.isIn idField [Identifier.literal text])

/-- Both predicates ask whether the identifier of a document equals the literal. -/
theorem ByLiteral.says {text : String} {p : Predicate} (hp : ByLiteral text p) (coll : String)
    (doc : Object) :
    Says coll [p] doc (equals (Json.lookup doc idField) (Identifier.literal text)) := by
  have hkey : idField ≠ "" := by decide
  have hplain : startsWithDollar idField = false := by decide
  cases hp with
  | filter =>
    refine says_filter hkey hplain ?_
    rintro _ ⟨⟩
    rfl
  | isIn =>
    have h : Says coll [.isIn idField [Identifier.literal text]] doc
        (isOneOf (Json.lookup doc idField) [Identifier.literal text]) :=
      says_isIn hkey hplain _
    rwa [isOneOf, List.any_cons, List.any_nil, Bool.or_false] at h

/-- A document that is found has a record, for a lookup as for a search. -/
theorem exists_record {docs : List Object} (h : Keyed docs) {found : Option Object}
    (hs : found.toList.Sublist docs) :
    ∃ r, recordOf found = .ok r ∧ Record.ofDocuments found.toList = .ok r.toList := by
  cases found with
  | none => exact ⟨none, rfl, rfl⟩
  | some doc =>
    obtain ⟨id, hid⟩ := h.written doc (hs.subset List.mem_cons_self)
    refine ⟨_, recordOf_of_id hid, Record.ofDocuments_of_forall₂ ?_⟩
    exact .cons (Record.ofDocument_of_id hid) .nil

/-- Over a connection that is up, a lookup succeeds, and a search by a literal shows the same
record, or none. -/
theorem ByLiteral.shows {text : String} {p : Predicate} (hp : ByLiteral text p) {s : Store}
    (hs : s.Reachable) (hup : s.bringUp.connection = .up) (coll : String) {id : Identifier}
    (hid : Identifier.ofText text = .ok id) :
    ∃ r, (s.findById coll text).1 = .ok r ∧
      (s.find coll [p]).1 = .ok (if IsLower text then r.toList else []) := by
  have h := hs.keyed coll
  obtain ⟨found, hfound⟩ := h.exists_filter_hasId id
  obtain ⟨r, hr, hrs⟩ := exists_record h (hfound ▸ List.filter_sublist)
  have hplain : unpaged [p] = [p] := by cases hp <;> rfl
  have hfind := hs.find_says hup hplain fun doc => hp.says coll doc
  rw [List.filter_congr fun doc hm => h.equals_literal hm hid] at hfind
  refine ⟨r, ?_, hfind.trans ?_⟩
  · rw [findById_of_ok hs hup hid, hfound, Option.head?_toList, hr]
  · by_cases hlower : IsLower text
    · simp only [hlower, decide_true, Bool.true_and, if_true]
      rw [hfound, hrs]
    · simp only [hlower, decide_false, Bool.false_and, if_false, List.filter_false]
      rfl

/-- A search by the literal of an identifier answers by what a lookup answers. It fails with it; and
where that finds a record, it shows the record if the literal has no capital letters, and else
nothing. -/
theorem find_literal {s : Store} (hs : s.Reachable) (coll : String) {text : String}
    (htext : Identifier.IsSpelling text) {p : Predicate} (hp : ByLiteral text p) :
    (s.find coll [p]).1
      = (s.findById coll text).1.map (fun r => if IsLower text then r.toList else []) ∧
    (s.bringUp.connection = .up → ∃ r, (s.findById coll text).1 = .ok r) := by
  obtain ⟨id, hid⟩ := (Identifier.exists_ofText_iff text).2 htext
  cases hc : s.bringUp.connection with
  | untried => exact absurd hc s.bringUp_settles
  | down cause =>
    refine ⟨?_, nofun⟩
    unfold find findById
    rw [ask_of_down hc, ask_of_down hc]
    rfl
  | up =>
    obtain ⟨r, hr, hfind⟩ := hp.shows hs hc coll hid
    refine ⟨?_, fun _ => ⟨r, hr⟩⟩
    rw [hfind, hr]
    rfl

/-- The first letter is looked up by both spellings of its identifier. -/
theorem exists_firstLetter {text : String} (h : Identifier.ofText text = .ok (repeatedId 10)) :
    ∃ first, ((serving letters).findById "letters" text).1 = .ok (some first) := by
  rw [findById_of_ok (reachable_serving reachable_letters) (serving_up letters) h]
  exact ⟨_, rfl⟩

/-- The first letter is found by the literal of its identifier. -/
theorem find_literal_letters :
    ∃ first, (serving letters).Reachable ∧
      Identifier.IsSpelling "aaaaaaaaaaaaaaaaaaaaaaaa" ∧
      ByLiteral "aaaaaaaaaaaaaaaaaaaaaaaa"
        (.filter [("_id", .obj [("$oid", .str "aaaaaaaaaaaaaaaaaaaaaaaa")])]) ∧
      ((serving letters).find "letters"
        [.filter [("_id", .obj [("$oid", .str "aaaaaaaaaaaaaaaaaaaaaaaa")])]]).1 = .ok [first] := by
  have hs : (serving letters).Reachable := reachable_serving reachable_letters
  have hid : Identifier.ofText "aaaaaaaaaaaaaaaaaaaaaaaa" = .ok (repeatedId 10) := rfl
  have htext := (Identifier.exists_ofText_iff _).1 ⟨_, hid⟩
  have hlower : IsLower "aaaaaaaaaaaaaaaaaaaaaaaa" := (Identifier.eq_hex_iff hid).1 rfl
  obtain ⟨first, hfirst⟩ := exists_firstLetter hid
  refine ⟨first, hs, htext, .filter, ?_⟩
  have hfind := (find_literal hs "letters" htext .filter).1
  rw [hfirst] at hfind
  refine hfind.trans ?_
  show Except.ok (if IsLower _ then [first] else []) = _
  rw [if_pos hlower]

/-- In capitals, the literal of the first letter's identifier finds nothing, though the same text
looks it up. -/
theorem find_capitals :
    ∃ first, (serving letters).Reachable ∧
      Identifier.IsSpelling "AAAAAAAAAAAAAAAAAAAAAAAA" ∧
      ((serving letters).findById "letters" "AAAAAAAAAAAAAAAAAAAAAAAA").1 = .ok (some first) ∧
      ((serving letters).find "letters"
        [.filter [("_id", .obj [("$oid", .str "AAAAAAAAAAAAAAAAAAAAAAAA")])]]).1 = .ok [] ∧
      ((serving letters).find "letters"
        [.isIn "_id" [.obj [("$oid", .str "AAAAAAAAAAAAAAAAAAAAAAAA")]]]).1 = .ok [] := by
  have hs : (serving letters).Reachable := reachable_serving reachable_letters
  have hup : (serving letters).bringUp.connection = .up := serving_up letters
  have hid : Identifier.ofText "AAAAAAAAAAAAAAAAAAAAAAAA" = .ok (repeatedId 10) := rfl
  have hcapital : ¬ IsLower "AAAAAAAAAAAAAAAAAAAAAAAA" := by
    rw [← Identifier.eq_hex_iff hid]
    show "AAAAAAAAAAAAAAAAAAAAAAAA" ≠ "aaaaaaaaaaaaaaaaaaaaaaaa"
    decide
  obtain ⟨first, hfirst⟩ := exists_firstLetter hid
  obtain ⟨_, -, hfilter⟩ := ByLiteral.filter.shows hs hup "letters" hid
  obtain ⟨_, -, hin⟩ := ByLiteral.isIn.shows hs hup "letters" hid
  rw [if_neg hcapital] at hfilter hin
  exact ⟨first, hs, (Identifier.exists_ofText_iff _).1 ⟨_, hid⟩, hfirst, hfilter, hin⟩

end Store

end DocStore
