import DocStore.Number

/-!
JSON values.  An object keeps its entries in the order in which they were put there
(`Json.Object`): writing a present key keeps its place, and taking a key out moves the
last entry into the hole.

Equality (`Json.same`) looks through that order at every depth.
-/

namespace DocStore

inductive Json where
  | null
  | bool (b : Bool)
  | num (n : Number)
  | str (s : String)
  | arr (items : List Json)
  | obj (fields : List (String × Json))

namespace Json

/-- The entries of an object in order. -/
abbrev Object := List (String × Json)

namespace Object

/-! ## Entries -/

def get? (o : Object) (key : String) : Option Json :=
  List.lookup key o

def contains (o : Object) (key : String) : Bool :=
  (o.get? key).isSome

def keys (o : Object) : List String :=
  o.map (·.1)

/-- Write an entry: in place when the key is present, else at the end. -/
def insert : Object → String → Json → Object
  | [], key, v => [(key, v)]
  | (k, w) :: rest, key, v =>
    if k = key then (k, v) :: rest else (k, w) :: insert rest key v

/-- Take the last entry to the front of the others. -/
def lastToFront (o : Object) : Object :=
  match o.getLast? with
  | none => []
  | some e => e :: o.dropLast

/-- Take an entry out; the last entry moves into its place. -/
def erase : Object → String → Object
  | [], _ => []
  | (k, w) :: rest, key =>
    if k = key then lastToFront rest else (k, w) :: erase rest key

/-- Entries written one after the other, so that a repeated key keeps its first place
and its last value. -/
def ofEntries (entries : List (String × Json)) : Object :=
  entries.foldl (fun o e => o.insert e.1 e.2) []

/-! ## Laws of entries -/

/-- No key stands twice. -/
def Distinct (o : Object) : Prop :=
  o.keys.Nodup

theorem get?_nil (key : String) : get? [] key = none := rfl

theorem get?_cons (k : String) (w : Json) (o : Object) (key : String) :
    get? ((k, w) :: o) key = if key = k then some w else get? o key := by
  unfold get?
  rw [List.lookup_cons]
  by_cases h : key = k
  · simp [h]
  · rw [beq_eq_false_iff_ne.2 h, if_neg h]

theorem get?_eq_none_iff (o : Object) (key : String) : o.get? key = none ↔ key ∉ o.keys := by
  induction o with
  | nil => simp [get?_nil, keys]
  | cons e rest ih =>
    obtain ⟨k, w⟩ := e
    rw [get?_cons]
    by_cases h : key = k <;> simp_all [keys]

/-- An entry written is read back, and the others stay. -/
theorem get?_insert (o : Object) (key : String) (v : Json) (key' : String) :
    (o.insert key v).get? key' = if key' = key then some v else o.get? key' := by
  induction o with
  | nil => simp only [insert, get?_cons]
  | cons e rest ih =>
    obtain ⟨k, w⟩ := e
    unfold insert
    by_cases h : k = key
    · rw [if_pos h, get?_cons, get?_cons, h]
      by_cases h' : key' = key <;> simp [h']
    · rw [if_neg h, get?_cons, get?_cons, ih]
      by_cases h' : key' = k
      · have hn : key' ≠ key := by rw [h']; exact h
        simp [h', h]
      · simp [h']

theorem keys_insert (o : Object) (key : String) (v : Json) :
    (o.insert key v).keys = if key ∈ o.keys then o.keys else o.keys ++ [key] := by
  induction o with
  | nil => simp [insert, keys]
  | cons e rest ih =>
    obtain ⟨k, w⟩ := e
    unfold insert
    by_cases h : k = key
    · simp [keys, h]
    · have hn : key ≠ k := fun e => h e.symm
      rw [if_neg h]
      show k :: keys (insert rest key v) = _
      rw [ih]
      by_cases hm : key ∈ keys rest <;> simp_all [keys]

theorem Distinct.insert {o : Object} (h : o.Distinct) (key : String) (v : Json) :
    (o.insert key v).Distinct := by
  unfold Distinct
  rw [keys_insert]
  split
  · exact h
  · next hm =>
    rw [List.nodup_append]
    refine ⟨h, by simp, ?_⟩
    intro a ha b hb
    rw [List.mem_singleton] at hb
    intro e
    exact hm (by rw [← hb, ← e]; exact ha)

theorem distinct_ofEntries (entries : List (String × Json)) : (ofEntries entries).Distinct := by
  have gen : ∀ (es : List (String × Json)) (o : Object), o.Distinct →
      Distinct (es.foldl (fun o e => o.insert e.1 e.2) o) := by
    intro es
    induction es with
    | nil => exact fun _ h => h
    | cons e es ih => exact fun o h => ih _ (h.insert e.1 e.2)
  exact gen entries [] List.nodup_nil

theorem lastToFront_perm (o : Object) : (lastToFront o).Perm o := by
  unfold lastToFront
  split
  · next h => rw [List.getLast?_eq_none_iff.1 h]
  · next e h =>
    obtain ⟨es, rfl⟩ := List.getLast?_eq_some_iff.1 h
    rw [List.dropLast_concat]
    exact (List.perm_append_singleton e es).symm

/-- Up to order, taking an entry out keeps exactly the entries under other keys. -/
theorem erase_perm {o : Object} (h : o.Distinct) (key : String) :
    (o.erase key).Perm (o.filter fun e => e.1 ≠ key) := by
  induction o with
  | nil => exact .nil
  | cons e rest ih =>
    obtain ⟨k, w⟩ := e
    have hr : k ∉ keys rest ∧ Distinct rest := List.nodup_cons.1 h
    unfold erase
    by_cases hk : k = key
    · have hall : rest.filter (fun e => e.1 ≠ key) = rest := by
        rw [List.filter_eq_self]
        intro e he
        have : e.1 ∈ keys rest := List.mem_map_of_mem he
        simp only [ne_eq, decide_not, Bool.not_eq_eq_eq_not, Bool.not_true, decide_eq_false_iff_not]
        intro hek
        exact hr.1 (by rw [hk, ← hek]; exact this)
      rw [if_pos hk, List.filter_cons_of_neg (by simp [hk]), hall]
      exact lastToFront_perm rest
    · rw [if_neg hk, List.filter_cons_of_pos (by simp [hk])]
      exact (ih hr.2).cons (k, w)

theorem mem_iff_get? {o : Object} (h : o.Distinct) (key : String) (v : Json) :
    (key, v) ∈ o ↔ o.get? key = some v := by
  induction o with
  | nil => simp [get?_nil]
  | cons e rest ih =>
    obtain ⟨k, w⟩ := e
    have hr : k ∉ keys rest ∧ Distinct rest := List.nodup_cons.1 h
    rw [get?_cons, List.mem_cons, ih hr.2]
    by_cases hk : key = k
    · subst hk
      have hn := (get?_eq_none_iff rest key).2 hr.1
      simp [hn, eq_comm]
    · simp [hk]

theorem Distinct.erase {o : Object} (h : o.Distinct) (key : String) : (o.erase key).Distinct := by
  have hp : (o.erase key).keys.Perm (keys (o.filter fun e => e.1 ≠ key)) :=
    (erase_perm h key).map _
  exact hp.nodup_iff.2 (h.sublist (List.filter_sublist.map _))

/-- An entry taken out is gone, and the others stay. -/
theorem get?_erase {o : Object} (h : o.Distinct) (key key' : String) :
    (o.erase key).get? key' = if key' = key then none else o.get? key' := by
  apply Option.ext
  intro v
  rw [← mem_iff_get? (h.erase key), (erase_perm h key).mem_iff, List.mem_filter, mem_iff_get? h]
  by_cases hk : key' = key <;> simp [hk]

end Object

/-! ## Equality -/

mutual

def same : Json → Json → Bool
  | null, null => true
  | bool a, bool b => a == b
  | num a, num b => a.same b
  | str a, str b => a == b
  | arr xs, arr ys => sameItems xs ys
  | obj o, obj p => o.length == p.length && sameFields o p
  | _, _ => false

def sameItems : List Json → List Json → Bool
  | [], [] => true
  | x :: xs, y :: ys => same x y && sameItems xs ys
  | _, _ => false

/-- Every entry of the first stands in the second. -/
def sameFields : List (String × Json) → Object → Bool
  | [], _ => true
  | (k, v) :: rest, p =>
    (match p.get? k with
      | some w => same v w
      | none => false)
    && sameFields rest p

end

/-! ## Readers of one kind -/

def string? : Json → Option String
  | str s => some s
  | _ => none

def object? : Json → Option Object
  | obj o => some o
  | _ => none

def items? : Json → Option (List Json)
  | arr xs => some xs
  | _ => none

def bool? : Json → Option Bool
  | bool b => some b
  | _ => none

def isNull : Json → Bool
  | null => true
  | _ => false

/-- A whole number that fits an unsigned word. -/
def word? : Json → Option UInt64
  | num (.whole n _) => if 0 ≤ n then some n.toNat.toUInt64 else none
  | _ => none

def ofNat? (n : Nat) : Option Json :=
  (Number.ofInt? n).map num

def ofWord (w : UInt64) : Json :=
  num (.ofWord w)

end Json

end DocStore
