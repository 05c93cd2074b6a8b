import Mathlib.Data.List.DropRight
import DocStore.Proofs.Runs

/-!
Chains of steps.

A caller of `Compile.step` hands in a buffer, a predicate and what it says comes next, and calls
again with the buffer that it got back.  Whatever it says, the buffer holds the exclusions behind
the last one that closed (`waiting`):

    pendingAfter calls = .of (waiting calls)                 (pendingAfter_eq)
    what closes excludes, under its own key, the values that wait and its own value
                                                             (emitted_exclusion)

The step writes the key of an exclusion beside the values, but does not look at it again.  So
values of one key are excluded under another exactly where an exclusion meets the key of another
in the buffer (`HonoursKey`).  None does where every call is told the predicate of the next one,
and such are the calls that compile a list               (Foretold.honoursKey, compile_eq_chain).
-/

namespace DocStore

/-! ## Calls -/

/-- A buffer of exclusions: their values, and the key of the last. -/
def Pending.of (es : List (String × Json)) : Pending where
  key := es.getLast?.map (·.1)
  values := es.map (·.2)

namespace Compile

/-- A call of the step: a predicate, and what the caller says comes next. -/
structure Call where
  predicate : Predicate
  next : Option Predicate

namespace Call

/-- The key and the value of an exclusion that is valid. -/
def exclusion? (c : Call) : Option (String × Json) :=
  match c.predicate.validate with
  | .ok () => c.predicate.exclusion?
  | .error _ => none

/-- An exclusion that is said to be the last of its run. -/
def closes (c : Call) : Bool :=
  c.exclusion?.any fun e => !continues e.1 c.next

/-- The buffer and the effects.  A predicate at fault gives no buffer back, so that the caller goes
on with the one it has. -/
def run (c : Call) (pending : Pending) : Pending × List Effect :=
  match step pending c.predicate c.next with
  | .ok after => after
  | .error _ => (pending, [])

end Call

/-- The buffer and all effects after calls that begin with the empty buffer. -/
def chain (calls : List Call) : Pending × List Effect :=
  calls.foldl (fun s c => ((c.run s.1).1, s.2 ++ (c.run s.1).2)) ({}, [])

def pendingAfter (calls : List Call) : Pending :=
  (chain calls).1

/-- What a call emits behind others. -/
def emitted (before : List Call) (c : Call) : List Effect :=
  (c.run (pendingAfter before)).2

/-- The exclusions behind the last one that closed. -/
def waiting (calls : List Call) : List (String × Json) :=
  (calls.rtakeWhile fun c => !c.closes).filterMap Call.exclusion?

/-- The constraint that keeps values from a field. -/
def exclusionOf (key : String) : List Json → Constraint
  | [v] => .notEqual key v
  | vs => .notIn key vs

theorem excluded_exclusionOf (key : String) (vs : List Json) :
    (exclusionOf key vs).excluded = vs.map (key, ·) := by
  unfold exclusionOf
  split <;> rfl

/-! ## One call -/

section

variable {c : Call} {key : String} {v : Json}

theorem continues_eq_true_iff (key : String) (next : Option Predicate) :
    continues key next = true ↔ ∃ w, next = some (.ne key w) := by
  constructor
  · intro h
    unfold continues at h
    split at h
    · next k w =>
      have hk : k = key := beq_iff_eq.1 h
      exact ⟨w, by rw [hk]⟩
    · cases h
  · rintro ⟨w, rfl⟩
    exact beq_self_eq_true key

/-- An exclusion is at fault only for want of a key. -/
theorem exclusion?_eq_some_iff :
    c.exclusion? = some (key, v) ↔ c.predicate = .ne key v ∧ key ≠ "" := by
  obtain ⟨p, next⟩ := c
  constructor
  · intro h
    unfold Call.exclusion? at h
    split at h
    · next hv =>
      cases p <;> cases h
      refine ⟨rfl, ?_⟩
      rintro rfl
      cases hv
    · cases h
  · rintro ⟨rfl, hkey⟩
    have hv : (Predicate.ne key v).validate = .ok () := Predicate.validate_of_key rfl hkey
    simp only [Call.exclusion?, hv]
    rfl

theorem closes_of_exclusion? (h : c.exclusion? = some (key, v)) :
    c.closes = !continues key c.next := by
  unfold Call.closes
  rw [h]
  rfl

theorem run_of_exclusion? (h : c.exclusion? = some (key, v)) (pending : Pending) :
    c.run pending = exclude pending key v c.next := by
  obtain ⟨hp, hkey⟩ := exclusion?_eq_some_iff.1 h
  unfold Call.run
  rw [hp, step_exclusion (Predicate.validate_of_key rfl hkey)]

/-- A call that excludes nothing leaves the buffer alone. -/
theorem run_of_none (h : c.exclusion? = none) (pending : Pending) :
    (c.run pending).1 = pending := by
  unfold Call.run
  cases hv : c.predicate.validate with
  | error f =>
    unfold step
    rw [hv]
  | ok u =>
    have hp : c.predicate.exclusion? = none := by
      simpa only [Call.exclusion?, hv] using h
    rw [step_single hp hv]

/-- An exclusion goes behind those that wait, or is emitted with them. -/
theorem exclude_of (es : List (String × Json)) (key : String) (v : Json)
    (next : Option Predicate) :
    exclude (.of es) key v next =
      if continues key next then (.of (es ++ [(key, v)]), [])
      else (.of [], [.constrain (exclusionOf key (es.map (·.2) ++ [v]))]) := by
  unfold exclude
  split
  · simp [Pending.of]
  · cases es with
    | nil => rfl
    | cons e es => cases es <;> rfl

end

/-! ## Chains of calls -/

theorem waiting_concat (calls : List Call) (c : Call) :
    waiting (calls ++ [c]) = if c.closes then [] else waiting calls ++ c.exclusion?.toList := by
  unfold waiting
  rw [List.rtakeWhile_concat]
  cases c.closes with
  | true => rfl
  | false =>
    cases hc : c.exclusion? <;> simp [hc]

theorem chain_concat (calls : List Call) (c : Call) :
    chain (calls ++ [c])
      = ((c.run (pendingAfter calls)).1, (chain calls).2 ++ emitted calls c) := by
  unfold chain
  rw [List.foldl_append]
  rfl

theorem pendingAfter_concat (calls : List Call) (c : Call) :
    pendingAfter (calls ++ [c]) = (c.run (pendingAfter calls)).1 := by
  unfold pendingAfter
  rw [chain_concat]
  rfl

/-- The buffer holds the exclusions that wait, whatever their keys. -/
theorem pendingAfter_eq (calls : List Call) : pendingAfter calls = .of (waiting calls) := by
  induction calls using List.reverseRecOn with
  | nil => rfl
  | append_singleton calls c ih =>
    rw [pendingAfter_concat, waiting_concat, ih]
    cases hc : c.exclusion? with
    | none =>
      have hopen : c.closes = false := by
        unfold Call.closes
        rw [hc]
        rfl
      simp [run_of_none hc, hopen]
    | some e =>
      obtain ⟨key, v⟩ := e
      rw [run_of_exclusion? hc, exclude_of, closes_of_exclusion? hc]
      cases continues key c.next <;> rfl

/-- An exclusion emits what waits, and itself, under its own key. -/
theorem emitted_exclusion {c : Call} {key : String} {v : Json}
    (h : c.exclusion? = some (key, v)) (before : List Call) :
    emitted before c =
      if c.closes then [.constrain (exclusionOf key ((waiting before).map (·.2) ++ [v]))]
      else [] := by
  unfold emitted
  rw [pendingAfter_eq, run_of_exclusion? h, exclude_of, closes_of_exclusion? h]
  cases continues key c.next <;> rfl

/-- A predicate of another kind does not end what waits. -/
example : (chain [⟨.ne "a" .null, some (.ne "a" (.str "x"))⟩, ⟨.limit 3, none⟩,
    ⟨.ne "a" (.str "x"), none⟩]).2 = [.limit 3, .constrain (.notIn "a" [.null, .str "x"])] := rfl

/-- What waits has been asked for by a call. -/
theorem exists_of_mem_waiting {calls : List Call} {e : String × Json} (h : e ∈ waiting calls) :
    ∃ d ∈ calls, d.exclusion? = some e := by
  obtain ⟨d, hd, he⟩ := List.mem_filterMap.1 h
  exact ⟨d, (List.rtakeWhile_suffix _ _).subset hd, he⟩

/-! ## Keys -/

/-- `P` holds of every exclusion of a chain and the calls in front of it. -/
def EachExclusion (P : List Call → Call → String → Json → Prop) (calls : List Call) : Prop :=
  ∀ before c key v, before ++ [c] <+: calls → c.exclusion? = some (key, v) → P before c key v

/-- Values stay with their key: every constraint that an exclusion emits excludes, under the key of
the exclusion, only values that exclusions of this key asked for so far, and the values in the
buffer were asked for with the key that stands beside them. -/
structure KeepsToKeys (calls : List Call) : Prop where
  emitted : EachExclusion (fun before c key _ => ∀ k, .constrain k ∈ emitted before c →
    ∀ e ∈ k.excluded, e.1 = key ∧ ∃ d ∈ before ++ [c], d.exclusion? = some e) calls
  buffer : ∀ before, before <+: calls → ∀ w ∈ (pendingAfter before).values,
    ∃ key, (pendingAfter before).key = some key ∧ ∃ d ∈ before, d.exclusion? = some (key, w)

/-- An exclusion that meets a key in the buffer is one of this key. -/
def HonoursKey (calls : List Call) : Prop :=
  EachExclusion (fun before _ key _ => ∀ k, (pendingAfter before).key = some k → k = key) calls

/-- Every call is told the predicate of the next one. -/
def Foretold (calls : List Call) : Prop :=
  calls.IsChain fun c d => c.next = some d.predicate

section

variable {calls : List Call}

theorem EachExclusion.of_prefix {P : List Call → Call → String → Json → Prop}
    (h : EachExclusion P calls) {before : List Call} (hb : before <+: calls) :
    EachExclusion P before :=
  fun _ _ _ _ hp => h _ _ _ _ (hp.trans hb)

theorem key_pendingAfter (calls : List Call) :
    (pendingAfter calls).key = (waiting calls).getLast?.map (·.1) := by
  rw [pendingAfter_eq]
  rfl

theorem values_pendingAfter (calls : List Call) :
    (pendingAfter calls).values = (waiting calls).map (·.2) := by
  rw [pendingAfter_eq]
  rfl

/-- Where every exclusion comes upon its own key, all that wait have the key of the buffer. -/
theorem HonoursKey.key_of_mem_waiting (h : HonoursKey calls) {e : String × Json}
    (he : e ∈ waiting calls) : (pendingAfter calls).key = some e.1 := by
  induction calls using List.reverseRecOn with
  | nil => cases he
  | append_singleton calls c ih =>
    have hcalls : HonoursKey calls := h.of_prefix (List.prefix_append _ _)
    rw [waiting_concat] at he
    split at he
    · cases he
    · next hopen =>
      rw [key_pendingAfter, waiting_concat, if_neg hopen]
      cases hc : c.exclusion? with
      | none =>
        rw [hc] at he
        simp only [Option.toList_none, List.append_nil] at he ⊢
        rw [← key_pendingAfter]
        exact ih hcalls he
      | some own =>
        obtain ⟨key, v⟩ := own
        rw [hc] at he
        simp only [Option.toList_some, List.mem_append, List.mem_singleton] at he ⊢
        rw [List.getLast?_concat]
        rcases he with he | rfl
        · have hkey := h calls c key v (List.prefix_refl _) hc e.1 (ih hcalls he)
          rw [hkey]
          rfl
        · rfl

/-- Exclusions come upon their own key exactly where all that wait for them have it. -/
theorem honoursKey_iff :
    HonoursKey calls ↔
      EachExclusion (fun before _ key _ => ∀ e ∈ waiting before, e.1 = key) calls := by
  constructor
  · intro h before c key v hp hc e he
    have hbefore : HonoursKey before := h.of_prefix ((List.prefix_append _ _).trans hp)
    exact h before c key v hp hc e.1 (hbefore.key_of_mem_waiting he)
  · intro h before c key v hp hc k hk
    rw [key_pendingAfter] at hk
    obtain ⟨e, he, rfl⟩ := Option.map_eq_some_iff.1 hk
    exact h before c key v hp hc e (List.mem_of_getLast? he)

theorem HonoursKey.keepsToKeys (h : HonoursKey calls) : KeepsToKeys calls where
  emitted := by
    intro before c key v hp hc k hk e he
    have hone := honoursKey_iff.1 h before c key v hp hc
    rw [emitted_exclusion hc] at hk
    split at hk
    · obtain rfl : k = _ := by simpa using hk
      rw [excluded_exclusionOf] at he
      obtain ⟨w, hw, rfl⟩ := List.mem_map.1 he
      refine ⟨rfl, ?_⟩
      rcases List.mem_append.1 hw with hw | hw
      · obtain ⟨other, hother, rfl⟩ := List.mem_map.1 hw
        obtain ⟨d, hd, hdo⟩ := exists_of_mem_waiting hother
        refine ⟨d, List.mem_append_left _ hd, ?_⟩
        rw [hdo, ← hone other hother]
      · rw [List.mem_singleton.1 hw]
        exact ⟨c, by simp, hc⟩
    · cases hk
  buffer := by
    intro before hp w hw
    have hbefore : HonoursKey before := h.of_prefix hp
    rw [values_pendingAfter] at hw
    obtain ⟨e, he, rfl⟩ := List.mem_map.1 hw
    exact ⟨e.1, hbefore.key_of_mem_waiting he, exists_of_mem_waiting he⟩

/-! ## Calls that are told the truth -/

/-- Where something waits, the call before has announced the next exclusion of its key. -/
theorem Foretold.announced (h : Foretold calls) {k : String}
    (hk : (pendingAfter calls).key = some k) :
    k ≠ "" ∧ ∃ c ∈ calls.getLast?, ∃ w, c.next = some (.ne k w) := by
  induction calls using List.reverseRecOn with
  | nil => cases hk
  | append_singleton calls c ih =>
    obtain ⟨hcalls, -, hnext⟩ := List.isChain_append.1 h
    simp only [List.getLast?_concat, Option.mem_def, Option.some.injEq, exists_eq_left']
    rw [pendingAfter_concat] at hk
    cases hc : c.exclusion? with
    | none =>
      -- an announced exclusion would be one
      rw [run_of_none hc] at hk
      obtain ⟨hne, d, hd, w, hw⟩ := ih hcalls hk
      have hp : some c.predicate = some (.ne k w) := (hnext d hd c rfl).symm.trans hw
      have hexcl : c.exclusion? = some (k, w) :=
        exclusion?_eq_some_iff.2 ⟨Option.some.inj hp, hne⟩
      rw [hc] at hexcl
      cases hexcl
    | some e =>
      obtain ⟨key, v⟩ := e
      rw [run_of_exclusion? hc, pendingAfter_eq, exclude_of] at hk
      split at hk
      · next hgoes =>
        have hkey : key = k := by simpa [Pending.of] using hk
        subst hkey
        exact ⟨(exclusion?_eq_some_iff.1 hc).2, (continues_eq_true_iff _ _).1 hgoes⟩
      · cases hk

theorem Foretold.honoursKey (h : Foretold calls) : HonoursKey calls := by
  intro before c key v hp hc k hk
  have hprefix : Foretold (before ++ [c]) := List.IsChain.prefix h hp
  obtain ⟨hbefore, -, hnext⟩ := List.isChain_append.1 hprefix
  obtain ⟨-, d, hd, w, hw⟩ := Foretold.announced hbefore hk
  -- the call before has announced an exclusion of `k`, and `c` is what it was told
  have htold : some c.predicate = some (.ne k w) := (hnext d hd c rfl).symm.trans hw
  rw [(exclusion?_eq_some_iff.1 hc).1] at htold
  cases htold
  rfl

end

/-! ## Compiling a list -/

/-- The calls that compile a list: every predicate with the one behind it. -/
def callsOf : List Predicate → List Call
  | [] => []
  | p :: ps => ⟨p, ps.head?⟩ :: callsOf ps

theorem foretold_callsOf (ps : List Predicate) : Foretold (callsOf ps) := by
  induction ps with
  | nil => exact .nil
  | cons p ps ih =>
    refine List.isChain_cons.2 ⟨fun d hd => ?_, ih⟩
    cases ps with
    | nil => cases hd
    | cons q ps =>
      cases hd
      rfl

theorem fold_eq_chain {ps : List Predicate} {start cursor : Cursor} :
    ∀ (index : Nat) (before : List Call),
      fold index (pendingAfter before) ((chain before).2.foldl apply start) ps = .ok cursor →
      cursor = (chain (before ++ callsOf ps)).2.foldl apply start := by
  induction ps with
  | nil =>
    intro index before h
    cases h
    rw [callsOf, List.append_nil]
  | cons p ps ih =>
    intro index before h
    unfold fold at h
    split at h
    · cases h
    · next pending effects hstep =>
      have hrun : (Call.mk p ps.head?).run (pendingAfter before) = (pending, effects) := by
        unfold Call.run
        rw [hstep]
      have hafter : pendingAfter (before ++ [⟨p, ps.head?⟩]) = pending := by
        rw [pendingAfter_concat, hrun]
      have hall : (chain (before ++ [⟨p, ps.head?⟩])).2 = (chain before).2 ++ effects := by
        rw [chain_concat, emitted, hrun]
      rw [← List.foldl_append, ← hafter, ← hall] at h
      rw [ih _ _ h, List.append_assoc]
      rfl

theorem compile_eq_chain {collection : String} {ps : List Predicate} {cursor : Cursor}
    (h : compile collection ps = .ok cursor) :
    cursor = (chain (callsOf ps)).2.foldl apply { collection } :=
  fold_eq_chain 0 [] h

/-! ## What chains exclude -/

/-- What waits is excluded, whatever its keys, under the key of the next exclusion that closes.  So
a constraint holds values of one key exactly where no exclusion comes upon the key of another in the
buffer; then values stay with their key.  None comes upon another where every call is told the
predicate of the next one, and the cursor of a list is made by such calls. -/
theorem step_excludes (calls : List Call) :
    pendingAfter calls = .of (waiting calls) ∧
    (∀ c key v, c.exclusion? = some (key, v) → emitted calls c =
      if c.closes then [.constrain (exclusionOf key ((waiting calls).map (·.2) ++ [v]))] else []) ∧
    (HonoursKey calls ↔
      EachExclusion (fun before _ key _ => ∀ e ∈ waiting before, e.1 = key) calls) ∧
    (HonoursKey calls → KeepsToKeys calls) ∧
    (Foretold calls → HonoursKey calls) ∧
    ∀ collection ps cursor, compile collection ps = .ok cursor →
      Foretold (callsOf ps) ∧ cursor = (chain (callsOf ps)).2.foldl apply { collection } :=
  ⟨pendingAfter_eq calls, fun _ _ _ h => emitted_exclusion h calls, honoursKey_iff,
    HonoursKey.keepsToKeys, Foretold.honoursKey,
    fun _ ps _ h => ⟨foretold_callsOf ps, compile_eq_chain h⟩⟩

/-- An exclusion that announces another one of its key, and then one of another key. -/
def crossed : List Call :=
  [⟨.ne "status" (.str "banned"), some (.ne "status" (.str "muted"))⟩,
    ⟨.ne "role" (.str "guest"), none⟩]

/-- The value of the first is excluded under the key of the second. -/
theorem not_keepsToKeys_crossed :
    (chain crossed).2 = [.constrain (.notIn "role" [.str "banned", .str "guest"])] ∧
      ¬ KeepsToKeys crossed := by
  refine ⟨rfl, fun h => ?_⟩
  have hrole := h.emitted [⟨.ne "status" (.str "banned"), some (.ne "status" (.str "muted"))⟩]
    ⟨.ne "role" (.str "guest"), none⟩ "role" (.str "guest") (List.prefix_refl _) rfl
    (.notIn "role" [.str "banned", .str "guest"]) List.mem_cons_self
    ("role", .str "banned") List.mem_cons_self
  -- no call excludes this value under this key
  obtain ⟨-, d, hd, hexcl⟩ := hrole
  rw [exclusion?_eq_some_iff] at hexcl
  obtain ⟨hpred, -⟩ := hexcl
  simp only [List.cons_append, List.nil_append, List.mem_cons, List.not_mem_nil, or_false] at hd
  rcases hd with rfl | rfl
  · simp at hpred
  · simp at hpred

end Compile

end DocStore
