import DocStore.Text.Hex

/-!
Sets of code points as ranges.

A set is written as lines of text: hexadecimal code points and ranges `first-last` between
blanks, in ascending order (`CodeSet.ofText`).  Membership is a binary search
(`CodeSet.contains`); union and complement go through the ranges once, and the other
operations are built from these two.

    Covers (join r rs) n ↔ Covers (r :: rs) n              (covers_join)
    Covers (gaps low rs) n ↔ ¬ Covers rs n                 (covers_gaps)
-/

namespace DocStore.Unicode

/-- Code points from the first up to the last. -/
abbrev CodeRange : Type := Nat × Nat

namespace CodeRange

/-- Some range of the list holds `n`. -/
def Covers (rs : List CodeRange) (n : Nat) : Prop :=
  ∃ r ∈ rs, r.1 ≤ n ∧ n ≤ r.2

/-- Join the range with those of an ascending list that overlap or touch it. -/
def join (r : CodeRange) : List CodeRange → List CodeRange
  | [] => [r]
  | s :: rest => if s.1 ≤ r.2 + 1 then join (r.1, max r.2 s.2) rest else r :: join s rest

/-- The ranges between the ranges of an ascending list, from `low` up to U+10FFFF. -/
def gaps (low : Nat) : List CodeRange → List CodeRange
  | [] => if low ≤ 0x10FFFF then [(low, 0x10FFFF)] else []
  | r :: rest =>
    if low < r.1 then (low, r.1 - 1) :: gaps (r.2 + 1) rest else gaps (max low (r.2 + 1)) rest

/-- The ranges of an ascending list with those that overlap or touch made one. -/
def joinAll : List CodeRange → List CodeRange
  | [] => []
  | r :: rest => join r rest

end CodeRange

/-- Ranges in ascending order, each with a gap behind it. -/
structure CodeSet where
  ranges : Array CodeRange
  deriving DecidableEq

namespace CodeSet

open CodeRange

/-! ## Tables -/

/-- The number that hexadecimal digits write. -/
def hexValue (cs : List Char) : Nat :=
  (cs.filterMap Hex.value?).foldl (fun (n : Nat) d => 16 * n + d.val) 0

/-- The range written `first-last`, or a single code point. -/
def rangeOfText (cs : List Char) : CodeRange :=
  let first := hexValue (cs.takeWhile (· != '-'))
  let rest := (cs.dropWhile (· != '-')).drop 1
  (first, if rest.isEmpty then first else hexValue rest)

def ofText (lines : List String) : CodeSet :=
  ⟨(lines.flatMap fun s => (s.toList.splitOn ' ').map rangeOfText).toArray⟩

/-! ## Membership -/

/-- Search the ranges from `low` up to `high`, at most `fuel` times. -/
def search (k : CodeSet) (n : Nat) : Nat → Nat → Nat → Bool
  | 0, _, _ => false
  | fuel + 1, low, high =>
    if low < high then
      let mid := (low + high) / 2
      match k.ranges[mid]? with
      | none => false
      | some (first, last) =>
        if n < first then k.search n fuel low mid
        else if last < n then k.search n fuel (mid + 1) high
        else true
    else false

/-- Whether a range holds `n`. -/
def contains (k : CodeSet) (n : Nat) : Bool :=
  k.search n (k.ranges.size.log2 + 2) 0 k.ranges.size

/-! ## Operations -/

def empty : CodeSet := ⟨#[]⟩

def single (n : Nat) : CodeSet := ⟨#[(n, n)]⟩

def range (first last : Nat) : CodeSet := ⟨#[(first, last)]⟩

/-- The set of the ranges, which may stand in any order. -/
def ofRanges (rs : List CodeRange) : CodeSet :=
  ⟨(joinAll (rs.mergeSort fun r s => r.1 ≤ s.1)).toArray⟩

def union (a b : CodeSet) : CodeSet :=
  ⟨(joinAll (a.ranges.toList.merge b.ranges.toList fun r s => r.1 ≤ s.1)).toArray⟩

/-- The code points that stand for no character. -/
def surrogates : CodeSet := range 0xD800 0xDFFF

/-- The characters outside the set. -/
def compl (a : CodeSet) : CodeSet :=
  ⟨(gaps 0 (a.union surrogates).ranges.toList).toArray⟩

def inter (a b : CodeSet) : CodeSet :=
  (a.compl.union b.compl).compl

def diff (a b : CodeSet) : CodeSet :=
  (a.compl.union b).compl

def symmDiff (a b : CodeSet) : CodeSet :=
  (a.union b).diff (a.inter b)

def unionAll (ks : List CodeSet) : CodeSet :=
  ks.foldl union empty

/-- Every character. -/
def all : CodeSet := empty.compl

def ascii : CodeSet := range 0 0x7F

def isEmpty (k : CodeSet) : Bool := k.ranges.isEmpty

end CodeSet

/-! ## Names -/

/-- A set under its plain names: lower case, without blanks, hyphens and underscores. -/
structure NamedSet where
  names : List String
  members : CodeSet

/-- The set of the name. -/
def NamedSet.find? (sets : List NamedSet) (name : String) : Option CodeSet :=
  (sets.find? fun k => k.names.contains name).map (·.members)

/-! ## Laws of the ranges -/

namespace CodeRange

theorem covers_cons (r : CodeRange) (rs : List CodeRange) (n : Nat) :
    Covers (r :: rs) n ↔ (r.1 ≤ n ∧ n ≤ r.2) ∨ Covers rs n := by
  simp [Covers]

/-- Joining ranges neither adds nor loses a code point. -/
theorem covers_join (r : CodeRange) (rs : List CodeRange) (n : Nat)
    (asc : (r :: rs).Pairwise fun r s => r.1 ≤ s.1) (ne : ∀ s ∈ r :: rs, s.1 ≤ s.2) :
    Covers (join r rs) n ↔ Covers (r :: rs) n := by
  induction rs generalizing r with
  | nil => rfl
  | cons s rest ih =>
    obtain ⟨first, asc⟩ := List.pairwise_cons.1 asc
    have hrs := first s (by simp)
    have hr := ne r (by simp)
    have hs := ne s (by simp)
    unfold join
    split
    next touch =>
      have both : r.1 ≤ n ∧ n ≤ max r.2 s.2 ↔ (r.1 ≤ n ∧ n ≤ r.2) ∨ (s.1 ≤ n ∧ n ≤ s.2) := by
        omega
      rw [ih, covers_cons, covers_cons r, covers_cons s, ← or_assoc, both]
      · exact List.pairwise_cons.2
          ⟨fun t ht => first t (List.mem_cons_of_mem _ ht), (List.pairwise_cons.1 asc).2⟩
      · intro t ht
        rcases List.mem_cons.1 ht with rfl | ht
        · simp only
          omega
        · exact ne t (by simp [ht])
    next =>
      rw [covers_cons, ih s asc fun t ht => ne t (List.mem_cons_of_mem _ ht), covers_cons r]

theorem le_of_covers_gaps (rs : List CodeRange) (low n : Nat) (ne : ∀ r ∈ rs, r.1 ≤ r.2)
    (h : Covers (gaps low rs) n) : low ≤ n := by
  induction rs generalizing low with
  | nil =>
    obtain ⟨r, hr, h, _⟩ := h
    unfold gaps at hr
    split at hr
    · rw [List.mem_singleton.1 hr] at h
      exact h
    · simp at hr
  | cons r rest ih =>
    have hr := ne r (by simp)
    have ih := fun low => ih low fun s hs => ne s (List.mem_cons_of_mem _ hs)
    unfold gaps at h
    split at h
    · rcases (covers_cons ..).1 h with h | h
      · exact h.1
      · have := ih _ h
        omega
    · have := ih _ h
      omega

/-- The gaps hold what the ranges do not. -/
theorem covers_gaps (rs : List CodeRange) (low n : Nat) (hlow : low ≤ n) (hlast : n ≤ 0x10FFFF)
    (asc : rs.Pairwise fun r s => r.2 < s.1) (ne : ∀ r ∈ rs, r.1 ≤ r.2) :
    Covers (gaps low rs) n ↔ ¬ Covers rs n := by
  induction rs generalizing low with
  | nil =>
    unfold gaps
    have : low ≤ 0x10FFFF := Nat.le_trans hlow hlast
    simp [Covers, this, hlow, hlast]
  | cons r rest ih =>
    obtain ⟨first, asc⟩ := List.pairwise_cons.1 asc
    have hr := ne r (by simp)
    have ne := fun s hs => ne s (List.mem_cons_of_mem _ hs)
    have later : Covers rest n → r.2 < n :=
      fun ⟨s, hs, h, _⟩ => Nat.lt_of_lt_of_le (first s hs) h
    rw [covers_cons]
    rcases Nat.lt_or_ge r.2 n with h | h
    · have out : ¬ (r.1 ≤ n ∧ n ≤ r.2) := by omega
      unfold gaps
      split
      · have out' : ¬ (low ≤ n ∧ n ≤ r.1 - 1) := by omega
        rw [covers_cons, ih (r.2 + 1) h asc ne]
        simp only [out, out', false_or]
      · rw [ih (max low (r.2 + 1)) (by omega) asc ne]
        simp only [out, false_or]
    · have behind : ∀ low, r.2 < low → ¬ Covers (gaps low rest) n := fun low hlow h' => by
        have := le_of_covers_gaps rest low n ne h'
        omega
      have out : ¬ Covers rest n := fun h' => by
        have := later h'
        omega
      unfold gaps
      split
      · rw [covers_cons]
        simp only [out, behind (r.2 + 1) (by omega), or_false]
        omega
      · have inside : r.1 ≤ n ∧ n ≤ r.2 := by omega
        exact ⟨fun h' => absurd h' (behind _ (by omega)), fun h' => absurd (.inl inside) h'⟩

end CodeRange

end DocStore.Unicode
