import DocStore.Proofs.Retrieval
import Mathlib.Algebra.Order.Ring.Nat

/-!
Reading a result page by page.

The k-th page of n records is found by the same predicates, with k * n records skipped and a
limit of n.  It compiles to the same filter and the same sort (`compile_page`), so it is a
window of the whole result (`find_page`), and the pages, one behind the other, are the result:

    s.find coll ps = rs → s.find coll (page ps n k) = (rs.drop (k * n)).take n
                                                             (find_page)
    s.readPages coll ps n k m = (rs.drop (k * n)).take (m * n)
                                                             (readPages_eq)
    all pages together are the result                        (pages_partition)

Skips are words, so that holds for pages that start below 2 ^ 64.
-/

namespace DocStore

open Json (Object)
open DocStore.Filter

/-! ## Windows -/

namespace Engine

theorem slice_some {α : Type} {n : UInt64} (hn : n ≠ 0) (a : UInt64) (xs : List α) :
    slice (some a) (some n) xs = (xs.drop a.toNat).take n.toNat :=
  if_neg hn

/-- A query that differs in its slice alone slices what the query without one finds. -/
theorem find_sliced {e : Engine} {coll : String} {q q' : Query}
    (hfilter : ∀ doc, matches? q'.filter doc = matches? q.filter doc) (hsort : q'.sort = q.sort)
    (hskip : q.skip = none) (hlimit : q.limit = none) {docs : List Object}
    (h : e.find coll q = .ok docs) : e.find coll q' = .ok (slice q'.skip q'.limit docs) := by
  have hanswers := answers_of_find h
  have hanswers' : Answers q'.filter (e.documents coll) := by
    intro doc hm
    rw [hfilter]
    exact hanswers doc hm
  have hhits : hits q'.filter = hits q.filter := by
    funext doc
    unfold hits
    rw [hfilter]
  have hall := find_of_answers hanswers
  rw [h, hskip, hlimit, Except.ok.injEq] at hall
  rw [find_of_answers hanswers', hhits, hsort, hall]
  rfl

end Engine

/-! ## Pages -/

/-- The predicates for the `k`-th page of `n` records. -/
def page (ps : List Predicate) (n : UInt64) (k : Nat) : List Predicate :=
  ps ++ [.skip (.ofNat (k * n.toNat)), .limit n]

/-- How many pages of `n` records it takes for `length` of them. -/
def pageCount (length : Nat) (n : UInt64) : Nat :=
  (length + n.toNat - 1) / n.toNat

section

variable {n : UInt64} (hn : n ≠ 0)

include hn

theorem toNat_pos : 0 < n.toNat :=
  UInt64.lt_iff_toNat_lt.1 (UInt64.pos_iff_ne_zero.2 hn)

theorem pageCount_le_iff (length k : Nat) : pageCount length n ≤ k ↔ length ≤ k * n.toNat := by
  have hpos := toNat_pos hn
  unfold pageCount
  rw [Nat.div_le_iff_le_mul_add_pred hpos, Nat.mul_comm]
  omega

/-- A page is empty as soon as the pages in front of it hold all records. -/
theorem window_eq_nil_iff {α : Type} (xs : List α) (k : Nat) :
    (xs.drop (k * n.toNat)).take n.toNat = [] ↔ pageCount xs.length n ≤ k := by
  have hpos := toNat_pos hn
  rw [pageCount_le_iff hn, List.take_eq_nil_iff, List.drop_eq_nil_iff]
  omega

/-- A result has to be very long for one of its pages not to start at a word. -/
theorem pageCount_mul_lt {length : Nat} (h : length < 2 ^ 63) :
    pageCount length n * n.toNat < 2 ^ 64 := by
  have hword := n.toNat_lt
  rcases Nat.lt_or_ge n.toNat length with hlt | hge
  · have hmul : pageCount length n * n.toNat ≤ length + n.toNat - 1 := Nat.div_mul_le_self _ _
    omega
  · have hone : pageCount length n ≤ 1 := (pageCount_le_iff hn length 1).2 (by omega)
    calc pageCount length n * n.toNat ≤ 1 * n.toNat := Nat.mul_le_mul_right _ hone
      _ < 2 ^ 64 := by omega

end

/-- A page compiles to the filter and the sort of the list, and to a slice of its own. -/
theorem compile_page {coll : String} {ps : List Predicate} {c : Cursor}
    (hc : compile coll ps = .ok c) (n : UInt64) (k : Nat) :
    ∃ c', compile coll (page ps n k) = .ok c' ∧
      (∀ doc, matches? c'.filter doc = matches? c.filter doc) ∧ c'.sort = c.sort ∧
      c'.skip = some (.ofNat (k * n.toNat)) ∧ c'.limit = some n := by
  have hv := Compile.validate_of_fold hc
  have hv' : ∀ p ∈ page ps n k, p.validate = .ok () := by
    intro p hp
    simp only [page, List.mem_append, List.mem_cons, List.not_mem_nil, or_false] at hp
    rcases hp with hp | rfl | rfl
    · exact hv p hp
    · rfl
    · rfl
  obtain ⟨hsort, -, -⟩ := paging_of_compile hc
  obtain ⟨c', hc', hsort', hskip', hlimit'⟩ := exists_compile coll hv'
  refine ⟨c', hc', fun doc => ?_, ?_, ?_, ?_⟩
  · rw [matches?_compile hc', matches?_compile hc, page, List.flatMap_append]
    exact congrArg (verdict · doc) (List.append_nil _)
  · rw [hsort', hsort, page, List.filterMap_append]
    exact congrArg List.getLast? (List.append_nil _)
  · rw [hskip', page, List.filterMap_append]
    exact List.getLast?_concat
  · rw [hlimit', page, List.filterMap_append]
    exact List.getLast?_concat

namespace Store

variable {s : Store} {coll : String} {ps : List Predicate}

/-- Ask for `m` pages of `n` records, from the `k`-th on, one after the other, and put the
records one behind the other. -/
def readPages (s : Store) (coll : String) (ps : List Predicate) (n : UInt64) (k : Nat) :
    Nat → Except StoreError (List Record) × Store
  | 0 => (.ok [], s)
  | m + 1 =>
    match s.find coll (page ps n k) with
    | (.error cause, s) => (.error cause, s)
    | (.ok shown, s) =>
      let (rest, s) := readPages s coll ps n (k + 1) m
      (rest.map (shown ++ ·), s)

/-- Records that are found are those of the documents that the engine finds. -/
theorem exists_documents_of_find {rs : List Record} (h : (s.find coll ps).1 = .ok rs) :
    ∃ c docs, compile coll ps = .ok c ∧ s.bringUp.engine.find coll c.query = .ok docs ∧
      Record.ofDocuments docs = .ok rs := by
  have hup : s.bringUp.connection = .up := up_of_ask h
  cases hc : compile coll ps with
  | error cause =>
    unfold find at h
    rw [ask_of_up hup, hc] at h
    cases h
  | ok c =>
    rw [find_compiled hup hc] at h
    cases hf : s.bringUp.engine.find coll c.query with
    | error cause =>
      rw [hf] at h
      cases h
    | ok docs =>
      rw [hf] at h
      exact ⟨c, docs, rfl, hf, h⟩

/-- A page is a window of what the predicates find without one. -/
theorem find_page (hplain : ∀ p ∈ ps, p.skip? = none ∧ p.limit? = none) {rs : List Record}
    (hrs : (s.find coll ps).1 = .ok rs) {n : UInt64} (hn : n ≠ 0) {k : Nat}
    (hk : k * n.toNat < 2 ^ 64) :
    (s.find coll (page ps n k)).1 = .ok ((rs.drop (k * n.toNat)).take n.toNat) := by
  obtain ⟨c, docs, hc, hfind, hdocs⟩ := exists_documents_of_find hrs
  obtain ⟨-, hskip, hlimit⟩ := paging_of_compile hc
  rw [List.filterMap_eq_nil_iff.2 fun p hp => (hplain p hp).1] at hskip
  rw [List.filterMap_eq_nil_iff.2 fun p hp => (hplain p hp).2] at hlimit
  obtain ⟨c', hc', hfilter, hsort, hskip', hlimit'⟩ := compile_page hc n k
  have hsliced : s.bringUp.engine.find coll c'.query = .ok (Engine.slice c'.skip c'.limit docs) :=
    Engine.find_sliced (q := c.query) hfilter hsort hskip hlimit hfind
  have hwindow : Engine.slice c'.skip c'.limit docs = (docs.drop (k * n.toNat)).take n.toNat := by
    rw [hskip', hlimit', Engine.slice_some hn, UInt64.toNat_ofNat_of_lt' hk]
  have hall := Record.forall₂_of_ofDocuments hdocs
  rw [find_compiled (up_of_ask hrs) hc', hsliced, hwindow]
  exact Record.ofDocuments_of_forall₂ (List.forall₂_take _ (List.forall₂_drop _ hall))

/-- The pages from the `k`-th on, one behind the other, are the result from there on. -/
theorem readPages_eq (hplain : ∀ p ∈ ps, p.skip? = none ∧ p.limit? = none) {rs : List Record}
    (hrs : (s.find coll ps).1 = .ok rs) {n : UInt64} (hn : n ≠ 0) {k m : Nat}
    (hwords : ∀ i < k + m, i * n.toNat < 2 ^ 64) :
    (s.readPages coll ps n k m).1 = .ok ((rs.drop (k * n.toNat)).take (m * n.toNat)) := by
  induction m generalizing s k with
  | zero => simp [readPages]
  | succ m ih =>
    have hpage := find_page hplain hrs hn (hwords k (by omega))
    have hnext : (s.bringUp.find coll ps).1 = .ok rs := by
      rw [find_bringUp]
      exact hrs
    have hrest := ih hnext (k := k + 1) fun i hi => hwords i (by omega)
    have hask : s.find coll (page ps n k)
        = (.ok ((rs.drop (k * n.toNat)).take n.toNat), s.bringUp) :=
      Prod.ext hpage (s.ask_store _)
    unfold readPages
    rw [hask]
    show Except.map (_ ++ ·) (s.bringUp.readPages coll ps n (k + 1) m).1 = _
    rw [hrest, Nat.add_one_mul, Nat.add_one_mul, Nat.add_comm (m * n.toNat), List.take_add,
      List.drop_drop]
    rfl

/-- Read page by page, a result stays whole.  Every page is a window of it, and is empty from the
number of its pages on; and these pages and the empty one behind them, put together, are the
result.  The pages have to start at words, which those of less than 2 ^ 63 records do. -/
theorem pages_partition (hplain : ∀ p ∈ ps, p.skip? = none ∧ p.limit? = none) {rs : List Record}
    (hrs : (s.find coll ps).1 = .ok rs) {n : UInt64} (hn : n ≠ 0) :
    (∀ k, k * n.toNat < 2 ^ 64 →
      (s.find coll (page ps n k)).1 = .ok ((rs.drop (k * n.toNat)).take n.toNat) ∧
      ((s.find coll (page ps n k)).1 = .ok [] ↔ pageCount rs.length n ≤ k)) ∧
    (pageCount rs.length n * n.toNat < 2 ^ 64 →
      (s.readPages coll ps n 0 (pageCount rs.length n + 1)).1 = .ok rs) ∧
    (rs.length < 2 ^ 63 → pageCount rs.length n * n.toNat < 2 ^ 64) := by
  refine ⟨fun k hk => ?_, fun hcount => ?_, pageCount_mul_lt hn⟩
  · have hpage := find_page hplain hrs hn hk
    refine ⟨hpage, ?_⟩
    rw [hpage, Except.ok.injEq, window_eq_nil_iff hn]
  · have hwords : ∀ i < 0 + (pageCount rs.length n + 1), i * n.toNat < 2 ^ 64 := fun i hi =>
      Nat.lt_of_le_of_lt (Nat.mul_le_mul_right _ (by omega)) hcount
    have hall : rs.length ≤ (pageCount rs.length n + 1) * n.toNat :=
      (pageCount_le_iff hn _ _).1 (Nat.le_succ _)
    rw [readPages_eq hplain hrs hn hwords, Nat.zero_mul, List.drop_zero,
      List.take_of_length_le hall]

/-- Two books, sorted anew for each page of one. -/
theorem pages_partition_books :
    ∃ first second,
      ((serving books).find "books" [.sort "tags" true]).1 = .ok [first, second] ∧
      ((serving books).find "books" (page [.sort "tags" true] 1 1)).1 = .ok [second] ∧
      ((serving books).find "books" (page [.sort "tags" true] 1 2)).1 = .ok [] ∧
      ((serving books).readPages "books" [.sort "tags" true] 1 0 3).1 = .ok [first, second] := by
  obtain ⟨c, hc⟩ : ∃ c, compile "books" [.sort "tags" true] = .ok c := ⟨_, rfl⟩
  obtain ⟨first, second, hfound⟩ : ∃ first second,
      answer (books.find "books" c.query) >>= Record.ofDocuments = .ok [first, second] := by
    cases hc
    exact ⟨_, _, rfl⟩
  have hread : ((serving books).find "books" [.sort "tags" true]).1 = .ok [first, second] := by
    rw [find_serving reachable_books hc]
    exact hfound
  have hplain : ∀ p ∈ [Predicate.sort "tags" true], p.skip? = none ∧ p.limit? = none := by
    simp [Predicate.skip?, Predicate.limit?]
  obtain ⟨hpages, hall, -⟩ := pages_partition hplain hread (n := 1) (by decide)
  have hlength : [first, second].length = 2 := rfl
  have hcount : pageCount 2 1 = 2 := by decide
  rw [hlength, hcount] at hall
  exact ⟨first, second, hread, (hpages 1 (by decide)).1, (hpages 2 (by decide)).1,
    hall (by decide)⟩

end Store

end DocStore
