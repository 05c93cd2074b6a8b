import DocStore.Proofs.Elements
import DocStore.Proofs.Markers
import DocStore.Proofs.Remembering

/-!
Patterns that were accepted, when they are run.

A pattern is read twice: when it is accepted, from its parts, and when a document is matched, from
the marker that was written for it.  Both times the same text is read, whatever the dialect, so
that what was accepted is recognised again and asks for what its expression matches:

    L.compile p = .ok r → L.ofMarker? p.toJson = some (.ok p)
                                                             (ofMarker?_toJson)
    L.compile p = .ok r → the marker asks which texts r matches
                                                             (fresh_marker)
    as it does of a matcher that was asked other questions   (runs_as_accepted)
-/

namespace DocStore

open Json (Object)
open DocStore.Filter

namespace Dialect

variable {ρ : Type} {L : Dialect ρ} {p : Pattern} {r : ρ}

/-! ## Accepted patterns -/

theorem ofParts_of_compile (h : L.compile p = .ok r) : L.ofParts p.source p.options = .ok p := by
  have hparts : L.compile ⟨p.source, p.options⟩ = .ok r := h
  unfold ofParts
  rw [hparts]

/-- The marker of an accepted pattern is recognised as that pattern. -/
theorem ofMarker?_toJson (h : L.compile p = .ok r) : L.ofMarker? p.toJson = some (.ok p) := by
  have hparts := ofParts_of_compile h
  show L.ofMarker? (.obj p.marker) = _
  unfold Pattern.marker
  by_cases hempty : p.options.isEmpty = true
  · rw [String.isEmpty_iff.1 hempty] at hparts
    rw [if_pos hempty, ← hparts]
    rfl
  · rw [if_neg hempty, ← hparts]
    rfl

/-! ## Matching -/

/-- The field is a text that passes the test, or an array with such a text. -/
def HasText (test : String → Bool) (actual : Option Json) : Prop :=
  (∃ s, actual = some (.str s) ∧ test s = true) ∨
    ∃ xs s, actual = some (.arr xs) ∧ .str s ∈ xs ∧ test s = true

theorem anyElement_iff_hasText (test : String → Bool) (actual : Option Json) :
    (anyElement actual fun v => v.string?.any test) = true ↔ HasText test actual := by
  have hstring : ∀ v : Json, v.string?.any test = true ↔ ∃ s, v = .str s ∧ test s = true := by
    intro v
    cases v <;> simp [Json.string?]
  unfold HasText
  cases actual with
  | none => simp [anyElement]
  | some v =>
    cases v with
    | arr xs =>
      simp only [anyElement, List.any_eq_true, hstring, Option.some.injEq]
      constructor
      · rintro ⟨_, hm, s, rfl, hs⟩
        exact .inr ⟨xs, s, rfl, hm, hs⟩
      · rintro (⟨s, he, -⟩ | ⟨_, s, he, hm, hs⟩)
        · cases he
        · cases he
          exact ⟨_, hm, s, rfl, hs⟩
    | _ => simp [anyElement, hstring]

/-- A new matcher asks the field what the expression matches. -/
theorem fresh_marker (hr : L.compile p = .ok r) {field : String}
    (hfield : startsWithDollar field = false) (doc : Object) :
    Memo.fresh L [(field, p.toJson)] doc
      = .ok (anyElement (Json.lookup doc field) fun v => v.string?.any (L.isMatch r)) := by
  let actual := Json.lookup doc field
  have hsourceKey : regexKey ∈ p.marker.keys := List.mem_cons_self
  have hops : operators? p.marker = .ok true :=
    Pattern.operators?_of_keys hsourceKey p.keys_marker
  have hentry : Memo.matchEntry L field p.toJson doc
      = Memo.matchOperators L p.options p.marker actual := by
    show Memo.matchEntry L field (.obj p.marker) doc = _
    unfold Memo.matchEntry
    rw [if_neg (ne_of_plain hfield).1, if_neg (ne_of_plain hfield).2, hfield]
    simp only [hops, p.flagsOf_marker]
    rfl
  -- the flags stand behind the source and ask for nothing
  have hflags : ∀ ps, (Memo.matchOperators L p.options p.marker.tail actual ps).1 = .ok true := by
    intro ps
    unfold Pattern.marker
    split <;> rfl
  have hsource : (Memo.matchesPattern L p.source p.options actual []).1
      = Memo.judge actual ((L.withFlags? p.source p.options).map L.isMatch) :=
    (Memo.matchesPattern_of_sound _ _ _ Patterns.sound_nil).1
  calc Memo.fresh L [(field, p.toJson)] doc
      = andThen (Memo.matchEntry L field p.toJson doc []).1 (.ok true) := Memo.fst_andThen _ _ _
    _ = (Memo.matchOperators L p.options p.marker actual []).1 := by rw [andThen_true, hentry]
    _ = andThen (Memo.matchesPattern L p.source p.options actual []).1 (.ok true) :=
      (Memo.fst_andThen _ _ _).trans (congrArg _ (hflags _))
    _ = .ok (anyElement actual fun v => v.string?.any (L.isMatch r)) := by
      rw [andThen_true, hsource, withFlags?_of_compile hr]
      rfl

/-- A pattern that was accepted is recognised in the marker that is written for it.  Its expression
is there, and no matcher, new or after any questions, is ever at fault over the marker: it says
yes exactly where the field is a text that the expression matches, or an array with such a
text. -/
theorem runs_as_accepted (L : Dialect ρ) {source options : String} {p : Pattern}
    (hp : L.ofParts source options = .ok p) :
    L.ofMarker? p.toJson = some (.ok p) ∧
    ∃ r, L.compile p = .ok r ∧
      ∀ (asked : List (Object × Object)) (field : String) (doc : Object),
        startsWithDollar field = false → ∃ hit,
          (Memo.matchEntries L [(field, p.toJson)] doc (Memo.answers L asked []).2).1 = .ok hit ∧
            (hit = true ↔ HasText (L.isMatch r) (Json.lookup doc field)) := by
  obtain ⟨-, r, hr⟩ := compile_of_ofParts hp
  refine ⟨ofMarker?_toJson hr, r, hr, fun asked field doc hfield => ?_⟩
  have hsound := Memo.sound_answers L asked Patterns.sound_nil
  refine ⟨_, ?_, anyElement_iff_hasText _ _⟩
  rw [(Memo.settled L [(field, p.toJson)] doc).answer _ hsound]
  exact fresh_marker hr hfield doc

/-- A pattern for empty lines, asked of a matcher that has met a broken pattern before. -/
theorem runs_as_accepted_emptyLine :
    own.ofParts "^$" "m" = .ok ⟨"^$", "m"⟩ ∧ startsWithDollar "lines" = false ∧
    Pattern.ofMarker? (Pattern.toJson ⟨"^$", "m"⟩) = some (.ok ⟨"^$", "m"⟩) ∧
    (Memo.matchEntries own [("lines", Pattern.toJson ⟨"^$", "m"⟩)]
      [("lines", .arr [.str "x", .str ""])]
      (Memo.answers own [([("a", .obj [(regexKey, .str "(")])], [])] []).2).1 = .ok true := by
  have hparts : own.ofParts "^$" "m" = .ok ⟨"^$", "m"⟩ := rfl
  have hplain : startsWithDollar "lines" = false := by decide
  obtain ⟨hmarker, r, hr, hruns⟩ := runs_as_accepted own hparts
  obtain ⟨hit, hanswer, hhit⟩ := hruns [([("a", .obj [(regexKey, .str "(")])], [])] "lines"
    [("lines", .arr [.str "x", .str ""])] hplain
  have hcompile : own.compile ⟨"^$", "m"⟩
      = .ok (.cat (.anchor (.lineStart false)) (.anchor (.lineEnd false))) := rfl
  rw [hcompile] at hr
  cases hr
  have hempty : Regex.isMatch (.cat (.anchor (.lineStart false)) (.anchor (.lineEnd false))) ""
      = true := by decide +kernel
  rw [hhit.2 (.inr ⟨_, "", rfl, by simp, hempty⟩)] at hanswer
  exact ⟨hparts, hplain, hmarker, hanswer⟩

end Dialect

end DocStore
