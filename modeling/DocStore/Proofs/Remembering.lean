import DocStore.Filter.Memo
import DocStore.Proofs.Equality

/-!
Remembered patterns.

A matcher goes on with the expressions that earlier questions have left behind, those of questions
that ended in a fault too.  Each of them is the one its source and flags stand for
(`Patterns.Sound`), and with such patterns every part of the evaluation answers as it does with
none, and leaves such patterns (`Memo.Settled`):

    Settled of two computations → Settled of them in a row   (Settled.andThen, Settled.orElse)
    Settled of every part of a value → Settled of the value  (transparent)
    no answer depends on the questions before it             (answers_eq_fresh)
-/

namespace DocStore

/-- The dialect reads and matches as this library does. -/
def Dialect.Agrees {ρ : Type} (L : Dialect ρ) : Prop :=
  ∀ source flags, (L.withFlags? source flags).map L.isMatch
    = (Regex.withFlags? source flags).map Regex.isMatch

theorem Dialect.agrees_own : own.Agrees :=
  fun _ _ => rfl

namespace Filter

open Json (Object)

variable {ρ : Type} {L : Dialect ρ}

/-- Every expression is the one that its source and flags stand for. -/
def Patterns.Sound (L : Dialect ρ) (ps : Patterns ρ) : Prop :=
  ∀ e ∈ ps, L.withFlags? e.1.1 e.1.2 = .ok e.2

theorem Patterns.sound_nil : Patterns.Sound L [] :=
  nofun

theorem Patterns.Sound.cons {ps : Patterns ρ} (h : ps.Sound L) {source flags : String} {r : ρ}
    (hr : L.withFlags? source flags = .ok r) : Patterns.Sound L (((source, flags), r) :: ps) :=
  List.forall_mem_cons.2 ⟨hr, h⟩

namespace Memo

theorem fst_andThen (m m' : Memo ρ Bool) (ps : Patterns ρ) :
    (m.andThen m' ps).1 = Filter.andThen (m ps).1 (m' (m ps).2).1 := by
  unfold andThen
  rcases m ps with ⟨_ | _ | _, _⟩ <;> rfl

theorem fst_orElse (m m' : Memo ρ Bool) (ps : Patterns ρ) :
    (m.orElse m' ps).1 = Filter.orElse (m ps).1 (m' (m ps).2).1 := by
  unfold orElse
  rcases m ps with ⟨_ | _ | _, _⟩ <;> rfl

/-! ## Computations that patterns do not change -/

/-- With sound patterns the computation answers as with none, and leaves sound ones.  In a dialect
like that of this library the answer is the plain one. -/
structure Settled (L : Dialect ρ) (m : Memo ρ Bool) (plain : Except Fault Bool) : Prop where
  sound : ∀ ps, Patterns.Sound L ps → (m ps).2.Sound L
  answer : ∀ ps, Patterns.Sound L ps → (m ps).1 = (m []).1
  plain : L.Agrees → (m []).1 = plain

namespace Settled

theorem ok (b : Bool) : Settled L (Memo.ok b) (.ok b) where
  sound _ h := h
  answer _ _ := rfl
  plain _ := rfl

theorem error (e : Fault) : Settled L (Memo.error e) (.error e) where
  sound _ h := h
  answer _ _ := rfl
  plain _ := rfl

section

variable {m m' : Memo ρ Bool} {a a' : Except Fault Bool} (h : Settled L m a)
  (h' : Settled L m' a')

include h h'

/-- Two computations in a row, of which the second may be left out. -/
theorem inRow {both : Memo ρ Bool} {f : Except Fault Bool → Except Fault Bool → Except Fault Bool}
    (hfst : ∀ ps, (both ps).1 = f (m ps).1 (m' (m ps).2).1)
    (hsnd : ∀ ps, (both ps).2 = (m ps).2 ∨ (both ps).2 = (m' (m ps).2).2) :
    Settled L both (f a a') := by
  have hboth : ∀ ps, Patterns.Sound L ps → (both ps).1 = f (m []).1 (m' []).1 := by
    intro ps hps
    rw [hfst, h.answer ps hps, h'.answer _ (h.sound ps hps)]
  refine ⟨fun ps hps => ?_, fun ps hps => ?_, fun hL => ?_⟩
  · rcases hsnd ps with hsnd | hsnd <;> rw [hsnd]
    · exact h.sound ps hps
    · exact h'.sound _ (h.sound ps hps)
  · rw [hboth ps hps, hboth [] Patterns.sound_nil]
  · rw [hboth [] Patterns.sound_nil, h.plain hL, h'.plain hL]

theorem andThen : Settled L (m.andThen m') (Filter.andThen a a') := by
  refine h.inRow h' (fst_andThen m m') fun ps => ?_
  unfold Memo.andThen
  rcases m ps with ⟨_ | _ | _, qs⟩
  · exact .inl rfl
  · exact .inl rfl
  · exact .inr rfl

theorem orElse : Settled L (m.orElse m') (Filter.orElse a a') := by
  refine h.inRow h' (fst_orElse m m') fun ps => ?_
  unfold Memo.orElse
  rcases m ps with ⟨_ | _ | _, qs⟩
  · exact .inl rfl
  · exact .inr rfl
  · exact .inl rfl

end

theorem anyOk {α : Type} {test : α → Memo ρ Bool} {plain : α → Except Fault Bool} {xs : List α}
    (h : ∀ x ∈ xs, Settled L (test x) (plain x)) :
    Settled L (Memo.anyOk test xs) (Filter.anyOk plain xs) := by
  induction xs with
  | nil => exact .ok false
  | cons x xs ih =>
    obtain ⟨hx, hxs⟩ := List.forall_mem_cons.1 h
    have hplain : Filter.anyOk plain (x :: xs) = Filter.orElse (plain x) (Filter.anyOk plain xs) := by
      rw [Filter.anyOk]
      unfold Filter.orElse
      rcases plain x with _ | _ | _ <;> rfl
    rw [hplain]
    exact hx.orElse (ih hxs)

end Settled

/-! ## Patterns -/

/-- What is said of a field by what a pattern is read as: the texts that it matches, or a
fault. -/
def judge (actual : Option Json) (read : Except Regex.Fault (String → Bool)) :
    Except Fault Bool :=
  (read.map fun test => anyElement actual fun v => v.string?.any test).mapError .pattern

theorem matchesPattern_of_sound (source flags : String) (actual : Option Json) {ps : Patterns ρ}
    (h : ps.Sound L) :
    (matchesPattern L source flags actual ps).1
        = judge actual ((L.withFlags? source flags).map L.isMatch) ∧
      (matchesPattern L source flags actual ps).2.Sound L := by
  unfold matchesPattern pattern
  cases hps : List.lookup (source, flags) ps with
  | some r =>
    -- what is remembered is what would be read
    obtain ⟨before, after, rfl, -⟩ := List.lookup_eq_some_iff.1 hps
    have hr : L.withFlags? source flags = .ok r :=
      h _ (List.mem_append_right _ List.mem_cons_self)
    rw [hr]
    exact ⟨rfl, h⟩
  | none =>
    cases hr : L.withFlags? source flags with
    | ok r => exact ⟨rfl, h.cons hr⟩
    | error cause => exact ⟨rfl, h⟩

theorem settled_matchesPattern (source flags : String) (actual : Option Json) :
    Settled L (matchesPattern L source flags actual)
      (judge actual ((Regex.withFlags? source flags).map Regex.isMatch)) where
  sound _ h := (matchesPattern_of_sound source flags actual h).2
  answer _ h := (matchesPattern_of_sound source flags actual h).1.trans
    (matchesPattern_of_sound source flags actual Patterns.sound_nil).1.symm
  plain hL := by
    rw [(matchesPattern_of_sound source flags actual Patterns.sound_nil).1, hL]

/-! ## Filters -/

/-- Wherever evaluation comes to the value, patterns do not change what it answers: as a clause,
as the condition of an entry, and as the operand of an operator. -/
structure Transparent (L : Dialect ρ) (v : Json) : Prop where
  clause : ∀ sub doc, v = .obj sub → Settled L (matchEntries L sub doc) (Filter.matchEntries sub doc)
  entry : ∀ key doc, Settled L (matchEntry L key v doc) (Filter.matchEntry key v doc)
  operator : ∀ flags name actual, Settled L (matchOperator L flags name v actual)
    (Filter.matchOperator flags name v actual)

theorem settled_entries {es : Object} (h : ∀ x ∈ (Json.obj es).parts, Transparent L x)
    (doc : Object) : Settled L (matchEntries L es doc) (Filter.matchEntries es doc) := by
  induction es with
  | nil => exact .ok true
  | cons e es ih =>
    obtain ⟨he, hes⟩ := List.forall_mem_cons.1 h
    exact (he.entry e.1 doc).andThen (ih hes)

theorem settled_operators {ops : Object} (h : ∀ x ∈ (Json.obj ops).parts, Transparent L x)
    (flags : String) (actual : Option Json) :
    Settled L (matchOperators L flags ops actual) (Filter.matchOperators flags ops actual) := by
  induction ops with
  | nil => exact .ok true
  | cons e ops ih =>
    obtain ⟨he, hops⟩ := List.forall_mem_cons.1 h
    exact (he.operator flags e.1 actual).andThen (ih hops)

theorem settled_all {items : List Json} (h : ∀ x ∈ items, Transparent L x) (doc : Object) :
    Settled L (matchAll L items doc) (Filter.matchAll items doc) := by
  induction items with
  | nil => exact .ok true
  | cons v items ih =>
    obtain ⟨hv, hitems⟩ := List.forall_mem_cons.1 h
    cases v with
    | obj sub => exact (hv.clause sub doc rfl).andThen (ih hitems)
    | _ => exact ih hitems

theorem settled_any {items : List Json} (h : ∀ x ∈ items, Transparent L x) (doc : Object) :
    Settled L (matchAny L items doc) (Filter.matchAny items doc) := by
  induction items with
  | nil => exact .ok false
  | cons v items ih =>
    obtain ⟨hv, hitems⟩ := List.forall_mem_cons.1 h
    cases v with
    | obj sub => exact (hv.clause sub doc rfl).orElse (ih hitems)
    | _ => exact ih hitems

section

variable {v : Json} (h : ∀ x ∈ v.parts, Transparent L x)

include h

theorem settled_entry (key : String) (doc : Object) :
    Settled L (matchEntry L key v doc) (Filter.matchEntry key v doc) := by
  unfold matchEntry Filter.matchEntry
  split
  · cases checkClauses key v with
    | error e => exact .error e
    | ok u =>
      cases v with
      | arr items => exact settled_all h doc
      | _ => exact .ok true
  · split
    · cases checkClauses key v with
      | error e => exact .error e
      | ok u =>
        cases v with
        | arr items => exact settled_any h doc
        | _ => exact .ok false
    · split
      · exact .error _
      · cases v with
        | obj o =>
          simp only
          cases operators? o with
          | error e => exact .error e
          | ok ops =>
            cases ops with
            | true => exact settled_operators h _ _
            | false => exact .ok _
        | _ => exact .ok _

theorem settled_elemMatch {name : String} (hop : Operator.ofName? name = some .elemMatch)
    (flags : String) (actual : Option Json) :
    Settled L (matchOperator L flags name v actual) (Filter.matchOperator flags name v actual) := by
  unfold matchOperator Filter.matchOperator
  simp only [hop]
  cases actual with
  | none => exact .ok false
  | some w =>
    cases w with
    | arr xs =>
      cases v with
      | obj sub =>
        simp only
        cases operators? sub with
        | error e => exact .error e
        | ok ops =>
          cases ops with
          | true => exact .anyOk fun x _ => settled_operators h _ _
          | false =>
            refine .anyOk fun x _ => ?_
            cases x with
            | obj doc => exact settled_entries h doc
            | _ => exact .ok false
      | _ => exact .error _
    | _ => exact .ok false

theorem settled_operator (flags name : String) (actual : Option Json) :
    Settled L (matchOperator L flags name v actual) (Filter.matchOperator flags name v actual) := by
  cases hop : Operator.ofName? name with
  | none =>
    unfold matchOperator Filter.matchOperator
    simp only [hop]
    exact .error _
  | some op =>
    cases op with
    | elemMatch => exact settled_elemMatch h hop flags actual
    | regex =>
      unfold matchOperator Filter.matchOperator
      simp only [hop]
      cases v with
      | str source =>
        have hjudge := settled_matchesPattern (L := L) source flags actual
        simp only
        cases hr : Regex.withFlags? source flags <;> rw [hr] at hjudge <;> exact hjudge
      | _ => exact .error _
    | isIn | nin =>
      unfold matchOperator Filter.matchOperator
      simp only [hop]
      cases v with
      | arr vs => exact .ok _
      | _ => exact .error _
    | _ =>
      unfold matchOperator Filter.matchOperator
      simp only [hop]
      exact .ok _

end

theorem transparent (L : Dialect ρ) (v : Json) : Transparent L v := by
  induction v using Json.induction_parts with
  | step v ih =>
    refine ⟨fun sub doc hv => ?_, settled_entry ih, settled_operator ih⟩
    rw [hv] at ih
    exact settled_entries ih doc

theorem settled (L : Dialect ρ) (filter doc : Object) :
    Settled L (matchEntries L filter doc) (matches? filter doc) :=
  settled_entries (fun x _ => transparent L x) doc

/-! ## Matchers -/

/-- What is remembered after questions is sound, whatever they were. -/
theorem sound_answers (L : Dialect ρ) (asked : List (Object × Object)) {ps : Patterns ρ}
    (h : ps.Sound L) : (answers L asked ps).2.Sound L := by
  induction asked generalizing ps with
  | nil => exact h
  | cons q asked ih => exact ih ((settled L q.1 q.2).sound ps h)

theorem answers_of_sound (L : Dialect ρ) (asked : List (Object × Object)) {ps : Patterns ρ}
    (h : ps.Sound L) : (answers L asked ps).1 = asked.map fun q => fresh L q.1 q.2 := by
  induction asked generalizing ps with
  | nil => rfl
  | cons q asked ih =>
    have hq := settled L q.1 q.2
    show (matchEntries L q.1 q.2 ps).1 :: (answers L asked _).1 = _
    rw [hq.answer ps h, ih (hq.sound ps h)]
    rfl

/-- To every question, whatever it has been asked before and however that ended, a matcher answers
as a new one does; and a new one for the expressions of this library as `matches?`. -/
theorem answers_eq_fresh (asked : List (Object × Object)) :
    (∀ (ρ : Type) (L : Dialect ρ),
      (answers L asked []).1 = asked.map fun q => fresh L q.1 q.2) ∧
    ∀ filter doc, fresh .own filter doc = matches? filter doc :=
  ⟨fun _ L => answers_of_sound L asked Patterns.sound_nil,
    fun filter doc => (settled .own filter doc).plain Dialect.agrees_own⟩

end Memo

end Filter

end DocStore
