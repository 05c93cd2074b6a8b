import DocStore.Proofs.Equality
import DocStore.Proofs.Identity
import DocStore.Store
import Mathlib

/-!
The forms of an identifier: texts, and values in documents.

A digit is read in either case and written in the lower one, so a text is read as the
identifier whose written text it is when its letters are lowered:

    value? c = some d ↔ c.toLower = digit d                  (value?_eq_some_iff)
    ofText text = .ok id ↔ text.map Char.toLower = id.hex    (ofText_eq_ok_iff)
    (∃ id, ofText text = .ok id) ↔ IsSpelling text           (exists_ofText_iff)

Of values, a text and the object that holds nothing but a text under `$oid` are read like that
text, and no other value is read                             (ofJson_eq_ok_iff).
-/

namespace DocStore

open Json (Object)

/-! ## Digits -/

namespace Hex

/-- A capital letter has the value of the digit that is its small letter. -/
theorem value?_of_isUpper {c : Char} (hc : c.isUpper = true) {d : Fin 16}
    (h : c.toLower = digit d) : value? c = some d := by
  -- there are 26 capitals, and each is tried
  have hall : ∀ n, n < 91 → 65 ≤ n → ∀ d : Fin 16,
      (Char.ofNat n).toLower = digit d → value? (Char.ofNat n) = some d := by
    decide
  obtain ⟨hlow, hhigh⟩ : 65 ≤ c.toNat ∧ c.toNat < 91 := by
    simp [Char.isUpper, UInt32.le_iff_toNat_le] at hc
    omega
  rw [← Char.ofNat_toNat c] at h ⊢
  exact hall c.toNat hhigh hlow d h

/-- A character has the value of the digit that it is in lower case. -/
theorem value?_eq_some_iff (c : Char) (d : Fin 16) :
    value? c = some d ↔ c.toLower = digit d := by
  constructor
  · intro h
    unfold value? at h
    split at h <;> cases h <;> rfl
  · intro h
    by_cases hc : c.isUpper = true
    · exact value?_of_isUpper hc h
    · rw [Char.toLower_eq_of_not_isUpper hc] at h
      rw [h, value?_digit]

theorem exists_value?_iff (c : Char) :
    (∃ d, value? c = some d) ↔ c ∈ "0123456789abcdefABCDEF".toList := by
  constructor
  · rintro ⟨d, h⟩
    unfold value? at h
    split at h <;> first | decide | cases h
  · intro h
    have hall : ∀ c ∈ "0123456789abcdefABCDEF".toList, (value? c).isSome := by
      simp [value?]
    exact Option.isSome_iff_exists.1 (hall c h)

/-- A text has values when its characters have them, one by one. -/
theorem values?_eq_some_iff (cs : List Char) (ds : List (Fin 16)) :
    values? cs = some ds ↔ List.Forall₂ (fun c d => value? c = some d) cs ds := by
  induction cs generalizing ds with
  | nil => simp [values?, eq_comm]
  | cons c cs ih =>
    rw [List.forall₂_cons_left_iff]
    simp only [← ih]
    rw [values?]
    cases value? c with
    | none => simp
    | some d => cases values? cs <;> simp [eq_comm]

end Hex

/-! ## Texts -/

namespace Identifier

/-- Exactly 24 hexadecimal digits, in either case. -/
def IsSpelling (text : String) : Prop :=
  text.length = 24 ∧ ∀ c ∈ text.toList, c ∈ "0123456789abcdefABCDEF".toList

theorem ofText_eq_ok_iff_values (text : String) (id : Identifier) :
    ofText text = .ok id ↔
      List.Forall₂ (fun c d => Hex.value? c = some d) text.toList id.digits := by
  have hdigits : ∀ ds, ofDigits? ds = some id ↔ ds = id.digits := by
    intro ds
    unfold ofDigits?
    split
    · next h => exact ⟨fun he => by cases he; rfl, fun he => by subst he; rfl⟩
    · next h => exact ⟨nofun, fun he => absurd (he ▸ id.length_digits) h⟩
  have hread : ofText text = .ok id ↔ (Hex.values? text.toList).bind ofDigits? = some id := by
    unfold ofText
    cases (Hex.values? text.toList).bind ofDigits? <;> simp
  rw [hread, Option.bind_eq_some_iff, ← Hex.values?_eq_some_iff]
  simp only [hdigits, exists_eq_right]

/-- A text is read as the identifier whose text it is in lower case. -/
theorem ofText_eq_ok_iff (text : String) (id : Identifier) :
    ofText text = .ok id ↔ text.map Char.toLower = id.hex := by
  have hmap : List.Forall₂ (fun c d => Char.toLower c = Hex.digit d) text.toList id.digits ↔
      text.toList.map Char.toLower = id.digits.map Hex.digit := by
    rw [← List.forall₂_eq_eq_eq, List.forall₂_map_left_iff, List.forall₂_map_right_iff]
  rw [ofText_eq_ok_iff_values]
  simp only [Hex.value?_eq_some_iff]
  unfold hex
  rw [hmap, ← String.toList_inj, String.toList_map, String.toList_ofList]

theorem exists_ofText_iff (text : String) : (∃ id, ofText text = .ok id) ↔ IsSpelling text := by
  unfold IsSpelling
  rw [← String.length_toList]
  simp only [ofText_eq_ok_iff_values, ← Hex.exists_value?_iff]
  rw [← exists_forall₂_iff]
  constructor
  · rintro ⟨id, h⟩
    exact ⟨h.length_eq.trans id.length_digits, id.digits, h⟩
  · rintro ⟨hlength, ds, h⟩
    exact ⟨⟨ds, h.length_eq.symm.trans hlength⟩, h⟩

/-! ## Values -/

/-- The object that holds a text under `$oid`, and nothing else. -/
def literal (text : String) : Json :=
  .obj [(oidKey, .str text)]

theorem ofJson_literal (text : String) :
    ofJson (literal text) = (ofText text).mapError fun _ => .value (literal text) := by
  unfold ofJson literal
  simp only [if_true]
  cases ofText text <;> rfl

theorem ofJson_literal_eq_ok_iff (text : String) (id : Identifier) :
    ofJson (literal text) = .ok id ↔ ofText text = .ok id := by
  rw [ofJson_literal]
  cases ofText text <;> simp [Except.mapError]

/-- What is neither a text nor the object of one is no identifier. -/
theorem ofJson_of_other {v : Json} (hstr : ∀ text, v ≠ .str text)
    (hobj : ∀ text, v ≠ literal text) : ofJson v = .error (.value v) := by
  unfold ofJson
  split
  · next text => exact absurd rfl (hstr text)
  · next key text =>
    have hkey : key ≠ oidKey := fun h => hobj text (by rw [h]; rfl)
    rw [if_neg hkey]
  · rfl

/-- Values that are read are texts, and the objects of texts. -/
theorem ofJson_eq_ok_iff (v : Json) (id : Identifier) :
    ofJson v = .ok id ↔ ∃ text, ofText text = .ok id ∧ (v = .str text ∨ v = literal text) := by
  constructor
  · intro h
    by_cases hstr : ∃ text, v = .str text
    · obtain ⟨text, rfl⟩ := hstr
      exact ⟨text, h, .inl rfl⟩
    by_cases hobj : ∃ text, v = literal text
    · obtain ⟨text, rfl⟩ := hobj
      exact ⟨text, (ofJson_literal_eq_ok_iff text id).1 h, .inr rfl⟩
    rw [ofJson_of_other (not_exists.1 hstr) (not_exists.1 hobj)] at h
    cases h
  · rintro ⟨text, h, rfl | rfl⟩
    · exact h
    · exact (ofJson_literal_eq_ok_iff text id).2 h

end Identifier

/-! ## Reading -/

namespace Store

theorem readId_eq_ok_iff (text : String) (id : Identifier) :
    readId text = .ok id ↔ Identifier.ofText text = .ok id := by
  unfold readId
  cases Identifier.ofText text <;> simp

theorem readIdJson_eq_ok_iff (v : Json) (id : Identifier) :
    readIdJson v = .ok id ↔ Identifier.ofJson v = .ok id := by
  unfold readIdJson
  cases Identifier.ofJson v <;> simp

/-- Texts of 24 hexadecimal digits are read, as the identifier of which they are the text in lower
case, and so as the same one exactly when they differ in case alone.  What is written is read back,
as a text and as a value.  A text is read alike as a value and in its object, and nothing else is
read.  What is not read is an invalid identifier. -/
theorem identifier_forms :
    (∀ text, (∃ id, readId text = .ok id) ↔ Identifier.IsSpelling text) ∧
    (∀ text id, readId text = .ok id → id.hex = text.map Char.toLower) ∧
    (∀ text text' id id', readId text = .ok id → readId text' = .ok id' →
      (id = id' ↔ text.map Char.toLower = text'.map Char.toLower)) ∧
    (∀ id : Identifier, readId id.hex = .ok id ∧ readIdJson id.toJson = .ok id) ∧
    (∀ text id, (readIdJson (.str text) = .ok id ↔ readId text = .ok id) ∧
      (readIdJson (.obj [("$oid", .str text)]) = .ok id ↔ readId text = .ok id)) ∧
    (∀ v id, readIdJson v = .ok id →
      ∃ text, v = .str text ∨ v = .obj [("$oid", .str text)]) ∧
    (∀ text cause, readId text = .error cause → ∃ reason, cause = .invalidIdentifier reason) ∧
    ∀ v cause, readIdJson v = .error cause → ∃ reason, cause = .invalidIdentifier reason := by
  simp only [readId_eq_ok_iff, readIdJson_eq_ok_iff]
  refine ⟨Identifier.exists_ofText_iff, fun text id h => ?_, fun text text' id id' h h' => ?_,
    fun id => ⟨id.ofText_hex, id.ofJson_toJson⟩, fun text id => ⟨.rfl, ?_⟩, fun v id h => ?_,
    fun text cause h => ?_, fun v cause h => ?_⟩
  · exact ((Identifier.ofText_eq_ok_iff text id).1 h).symm
  · rw [(Identifier.ofText_eq_ok_iff text id).1 h, (Identifier.ofText_eq_ok_iff text' id').1 h']
    exact ⟨congrArg _, Identifier.hex_injective⟩
  · exact Identifier.ofJson_literal_eq_ok_iff text id
  · obtain ⟨text, -, hv⟩ := (Identifier.ofJson_eq_ok_iff v id).1 h
    exact ⟨text, hv⟩
  · unfold readId at h
    split at h <;> cases h
    exact ⟨_, rfl⟩
  · unfold readIdJson at h
    split at h <;> cases h
    exact ⟨_, rfl⟩

end Store

end DocStore
