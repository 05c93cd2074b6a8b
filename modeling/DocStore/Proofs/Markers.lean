import DocStore.Predicate
import DocStore.Proofs.Rearrangement

/-!
Markers and the patterns that they stand for.

A marker whose pattern compiles reads as operators and is never at fault: its source asks for
a match, and its flags ask for nothing.

    ofMarker? v = some (.ok p) → ∃ o, v = .obj o ∧ MarkedBy p o
                                                             (exists_markedBy)
    matchCondition of a marker = .ok (matchesText actual r)  (MarkedBy.matchCondition)

So a pattern that is taken out of a marker and written anew asks the same of every document,
in whatever order the marker has its entries and whether or not it has empty flags
                                                             (matchEntry_marker).
-/

namespace DocStore

open Json (Object)
open DocStore.Filter

namespace Pattern

/-! ## What a marker holds -/

theorem keys_of_isMarker {o : Object} (h : isMarker o = true) :
    regexKey ∈ o.keys ∧ ∀ k ∈ o.keys, k = regexKey ∨ k = optionsKey := by
  unfold isMarker at h
  rw [Bool.and_eq_true, List.all_eq_true] at h
  refine ⟨?_, by simpa using h.2⟩
  obtain ⟨v, hv⟩ := Option.isSome_iff_exists.1 h.1
  exact List.mem_map_of_mem (Object.mem_of_get? hv)

/-- With the keys of a marker, an object reads as operators. -/
theorem isOperators_of_keys {o : Object} (hsource : regexKey ∈ o.keys)
    (hkeys : ∀ k ∈ o.keys, k = regexKey ∨ k = optionsKey) : isOperators o = true := by
  rw [isOperators_iff]
  refine ⟨⟨regexKey, hsource⟩, fun hoid => ?_, fun k hk => ?_⟩
  · exact absurd (hkeys oidKey hoid) (by decide)
  · rcases hkeys k hk with rfl | rfl <;> rfl

theorem operators?_of_keys {o : Object} (hsource : regexKey ∈ o.keys)
    (hkeys : ∀ k ∈ o.keys, k = regexKey ∨ k = optionsKey) : Filter.operators? o = .ok true := by
  rw [operators?_ok_iff]
  refine ⟨isOperators_of_keys hsource hkeys, fun _ k hk => ?_⟩
  rcases hkeys k hk with rfl | rfl <;> rfl

/-- A value that does not read as operators is no marker. -/
theorem ofMarker?_of_plain {v : Json} (h : ∀ o, v = .obj o → isOperators o = false) :
    ofMarker? v = none := by
  cases v with
  | obj o =>
    have hmarker : isMarker o = false := by
      by_contra hmarker
      obtain ⟨hsource, hkeys⟩ := keys_of_isMarker (by simpa using hmarker)
      have hops := isOperators_of_keys hsource hkeys
      rw [h o rfl] at hops
      cases hops
    unfold ofMarker? Dialect.ofMarker?
    simp [hmarker]
  | _ => rfl

/-- The object is a marker of the pattern, which compiles. -/
structure MarkedBy (p : Pattern) (o : Object) : Prop where
  keys : ∀ k ∈ o.keys, k = regexKey ∨ k = optionsKey
  source : o.get? regexKey = some (.str p.source)
  flags : flagsOf o = p.options
  compiles : ∃ r, p.compile = .ok r

theorem exists_markedBy {v : Json} {p : Pattern} (h : ofMarker? v = some (.ok p)) :
    ∃ o, v = .obj o ∧ MarkedBy p o := by
  unfold ofMarker? Dialect.ofMarker? at h
  split at h
  · next o =>
    split at h
    · next hmarker =>
      obtain ⟨-, hkeys⟩ := keys_of_isMarker hmarker
      rw [Option.some.injEq] at h
      refine ⟨o, rfl, ?_⟩
      split at h
      · next source hsource hoptions =>
        obtain ⟨rfl, hr⟩ := Dialect.compile_of_ofParts h
        exact ⟨hkeys, hsource, by rw [flagsOf, hoptions]; rfl, hr⟩
      · next source options hsource hoptions =>
        obtain ⟨rfl, hr⟩ := Dialect.compile_of_ofParts h
        exact ⟨hkeys, hsource, by rw [flagsOf, hoptions]; rfl, hr⟩
      · cases h
      · cases h
    · cases h
  · cases h

theorem compile_of_ofMarker? {v : Json} {p : Pattern} (h : ofMarker? v = some (.ok p)) :
    ∃ r, p.compile = .ok r := by
  obtain ⟨_, _, h⟩ := exists_markedBy h
  exact h.compiles

theorem distinct_marker (p : Pattern) : p.marker.Distinct := by
  unfold marker
  split
  · exact List.pairwise_singleton _ _
  · show [regexKey, optionsKey].Nodup
    decide

theorem keys_marker (p : Pattern) : ∀ k ∈ p.marker.keys, k = regexKey ∨ k = optionsKey := by
  unfold marker
  split
  · exact fun k hk => .inl (List.mem_singleton.1 hk)
  · intro k hk
    rcases List.mem_cons.1 hk with hk | hk
    · exact .inl hk
    · exact .inr (List.mem_singleton.1 hk)

theorem flagsOf_marker (p : Pattern) : flagsOf p.marker = p.options := by
  unfold marker
  split
  · next hempty =>
    rw [String.isEmpty_iff.1 hempty]
    rfl
  · rfl

theorem markedBy_marker {p : Pattern} {r : Regex} (hp : p.compile = .ok r) :
    MarkedBy p p.marker where
  keys := p.keys_marker
  source := rfl
  flags := p.flagsOf_marker
  compiles := ⟨r, hp⟩

namespace MarkedBy

variable {p : Pattern} {o : Object} (h : MarkedBy p o)

include h

theorem mem (hd : o.Distinct) : ∀ e ∈ o, e = (regexKey, .str p.source) ∨ e.1 = optionsKey := by
  intro e he
  refine (h.keys e.1 (List.mem_map_of_mem he)).imp_left fun hkey => ?_
  have hget := (Object.mem_iff_get? hd e.1 e.2).1 he
  rw [hkey, h.source, Option.some.injEq] at hget
  rw [← hkey, hget]

/-! ## What a marker asks for -/

theorem operators? : Filter.operators? o = .ok true := by
  have hsource : regexKey ∈ o.keys := List.mem_map_of_mem (Object.mem_of_get? h.source)
  exact operators?_of_keys hsource h.keys

/-- Under its operators stand its source, which asks for a match, and its flags, which ask for
nothing. -/
theorem matchOperator (hd : o.Distinct) {r : Regex} (hr : p.compile = .ok r)
    (actual : Option Json) : ∀ e ∈ o, Filter.matchOperator (flagsOf o) e.1 e.2 actual
      = .ok (e.1 == optionsKey || matchesText actual r) := by
  rintro ⟨name, v⟩ he
  rcases h.mem hd _ he with he | rfl
  · cases he
    rw [h.flags]
    unfold Filter.matchOperator
    have hread : Regex.withFlags? p.source p.options = .ok r := Dialect.withFlags?_of_compile hr
    simp only [regexKey, Operator.ofName?, hread]
    rfl
  · unfold Filter.matchOperator
    rfl

/-- A marker asks for a match and is never at fault. -/
theorem matchCondition (hd : o.Distinct) {r : Regex} (hr : p.compile = .ok r)
    (actual : Option Json) :
    Filter.matchCondition (.obj o) actual = .ok (matchesText actual r) := by
  have hsource : ∃ e ∈ o, (e.1 == optionsKey) = false :=
    ⟨_, Object.mem_of_get? h.source, rfl⟩
  simp only [Filter.matchCondition, h.operators?]
  rw [matchOperators_eq, List.map_congr_left (h.matchOperator hd hr actual), settle_map_ok]
  cases matchesText actual r with
  | true => simp
  | false => simpa using hsource

end MarkedBy

/-- In place of a marker, its pattern written anew asks the same of every document. -/
theorem matchEntry_marker {p : Pattern} {o : Object} (h : MarkedBy p o) (hd : o.Distinct)
    (key : String) (doc : Object) :
    matchEntry key (.obj o) doc = matchEntry key p.toJson doc := by
  obtain ⟨r, hr⟩ := h.compiles
  show _ = matchEntry key (.obj p.marker) doc
  cases hstop : stopOf? key with
  | some stop =>
    rw [matchEntry_clauses hstop, matchEntry_clauses hstop]
    rfl
  | none =>
    rw [matchEntry_condition hstop, matchEntry_condition hstop, h.matchCondition hd hr,
      (markedBy_marker hr).matchCondition (distinct_marker p) hr]

end Pattern

/-! ## Markers among fields -/

namespace Predicate

/-- The markers among the fields of a valid filter are patterns that compile. -/
theorem compile_of_validateFields {fields : Object}
    (h : validateFields fields = .ok ()) :
    ∀ e ∈ fields, ∀ m, Pattern.ofMarker? e.2 = some m → ∃ p r, m = .ok p ∧ p.compile = .ok r := by
  induction fields with
  | nil => exact fun _ he => absurd he List.not_mem_nil
  | cons e rest ih =>
    obtain ⟨name, v⟩ := e
    unfold validateFields at h
    split at h
    · cases h
    · split at h
      · cases h
      · next hmarker =>
        refine List.forall_mem_cons.2 ⟨fun m hm => ?_, ih h⟩
        cases m with
        | error cause => exact absurd hm (hmarker cause)
        | ok p =>
          obtain ⟨r, hr⟩ := Pattern.compile_of_ofMarker? hm
          exact ⟨p, r, rfl, hr⟩

end Predicate

end DocStore
