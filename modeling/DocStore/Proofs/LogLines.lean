import DocStore.Json.Grammar
import DocStore.Log
import DocStore.Proofs.Document
import DocStore.Proofs.StableSort

/-!
Lines of the log: one line each, and read back as what was logged.

A character is written as itself, as a letter behind a backslash or as a code of four digits, and
the reader of strings takes each of them as one unit that stands for the character. So it reads a
text up to the quote that closes it, whatever the text holds:

    scanString (escapes.char c ++ rest) adds unitOf c to what is read of rest
                                                             (scanString_escapes)
    scanString (cs.flatMap escapes.char ++ '"' :: rest)
      = some (cs.map unitOf, rest)                           (scanString_quoted)
    the members of a line are read one by one                (scanFields_written)

No control character is written as itself, so that the one line break of a line is at its end
                                                             (line_eq_append);
and fields whose keys differ stand in one order, ascending   (sortFields_of_perm).
-/

namespace DocStore

open Json (Object RawText TextUnit Tree)

namespace Json

/-! ## Scanning strings -/

/-- A one-letter escape is read as the character behind it. -/
theorem scanString_escape {e c : Char} (he : escaped? e = some c) (rest : List Char) :
    scanString ('\\' :: e :: rest) = (scanString rest).map fun p => (.char c :: p.1, p.2) := by
  have hu : e ≠ 'u' := by
    rintro rfl
    cases he
  rw [scanString.eq_4 e rest fun _ _ _ _ _ h _ => hu h, he]
  cases scanString rest <;> rfl

/-- A code is read as the number that its digits write. -/
theorem scanString_code (i j : Fin 16) (rest : List Char) :
    scanString ('\\' :: 'u' :: '0' :: '0' :: Hex.digit i :: Hex.digit j :: rest)
      = (scanString rest).map fun p => (.code (i * 16 + j) :: p.1, p.2) := by
  have hzero : Hex.value? '0' = some 0 := rfl
  rw [scanString, hzero, Hex.value?_digit, Hex.value?_digit]
  cases scanString rest <;> simp

/-- Any other character from the blank on is read as itself. -/
theorem scanString_char {c : Char} (hquote : c ≠ '"') (hbackslash : c ≠ '\\')
    (hc : 0x20 ≤ c.toNat) (rest : List Char) :
    scanString (c :: rest) = (scanString rest).map fun p => (.char c :: p.1, p.2) := by
  rw [scanString.eq_5 c rest hquote (fun _ _ _ _ _ h _ => hbackslash h)
    fun _ _ h _ => hbackslash h]
  rw [if_neg (by simp only [hbackslash, false_or]; omega)]
  cases scanString rest <;> rfl

end Json

namespace Log

/-! ## Strings -/

/-- How the reader sees a character of a line: a control as its code, where there is no letter
for it. -/
def unitOf (c : Char) : TextUnit :=
  if (escapes.letters.lookup c).isNone ∧ isControl c then .code c.toNat else .char c

theorem mem_letters_of_lookup {c letter : Char} (h : escapes.letters.lookup c = some letter) :
    (c, letter) ∈ escapes.letters := by
  obtain ⟨front, rest, hletters, -⟩ := List.lookup_eq_some_iff.1 h
  rw [hletters]
  exact List.mem_append_right front List.mem_cons_self

/-- A letter is read as the character that it stands for. -/
theorem escaped?_of_lookup {c letter : Char} (h : escapes.letters.lookup c = some letter) :
    Json.escaped? letter = some c := by
  have hread : ∀ e ∈ escapes.letters, Json.escaped? e.2 = some e.1 := by
    simp [escapes, Json.escaped?]
  exact hread _ (mem_letters_of_lookup h)

theorem isControl_eq_false_iff (c : Char) :
    isControl c = false ↔ 0x20 ≤ c.toNat ∧ (c.toNat < 0x7f ∨ 0xa0 ≤ c.toNat) := by
  unfold isControl
  simp only [Bool.or_eq_false_iff, Bool.and_eq_false_iff, decide_eq_false_iff_not]
  omega

theorem toNat_of_isControl {c : Char} (h : isControl c = true) : c.toNat < 0xa0 := by
  by_contra hc
  have hfalse := (isControl_eq_false_iff c).2 ⟨by omega, by omega⟩
  rw [h] at hfalse
  cases hfalse

/-- A character that is written is read as one unit. -/
theorem scanString_escapes (c : Char) (rest : List Char) :
    Json.scanString (escapes.char c ++ rest)
      = (Json.scanString rest).map fun p => (unitOf c :: p.1, p.2) := by
  cases hletter : escapes.letters.lookup c with
  | some letter =>
    have hchar : escapes.char c = ['\\', letter] := by
      unfold Escapes.char
      rw [hletter]
    have hunit : unitOf c = .char c := if_neg (by simp [hletter])
    rw [hchar, hunit]
    exact Json.scanString_escape (escaped?_of_lookup hletter) rest
  | none =>
    have hchar : escapes.char c = if isControl c then Hex.code c else [c] := by
      unfold Escapes.char
      rw [hletter]
      rfl
    have hunit : unitOf c = if isControl c then .code c.toNat else .char c := by
      simp [unitOf, hletter]
    rw [hchar, hunit]
    split
    · next hc =>
      have hlow := toNat_of_isControl hc
      have hcode : ((Hex.lowest (c.toNat / 16)) : Nat) * 16 + (Hex.lowest c.toNat : Nat)
          = c.toNat := by
        show c.toNat / 16 % 16 * 16 + c.toNat % 16 = c.toNat
        omega
      have hread := Json.scanString_code (Hex.lowest (c.toNat / 16)) (Hex.lowest c.toNat) rest
      rwa [hcode] at hread
    · next hc =>
      have hlow := (isControl_eq_false_iff c).1 (Bool.eq_false_iff.2 hc)
      -- the quote and the backslash have letters
      have hne : ∀ e ∈ escapes.letters, c ≠ e.1 := fun e he =>
        bne_iff_ne.1 (List.lookup_eq_none_iff.1 hletter e he)
      exact Json.scanString_char (hne ('"', '"') (by simp [escapes]))
        (hne ('\\', '\\') (by simp [escapes])) hlow.1 rest

/-- What is written between quotes is read up to them. -/
theorem scanString_quoted (cs rest : List Char) :
    Json.scanString (cs.flatMap escapes.char ++ '"' :: rest) = some (cs.map unitOf, rest) := by
  induction cs with
  | nil => exact Json.scanString.eq_2 rest
  | cons c cs ih =>
    rw [List.flatMap_cons, List.append_assoc, scanString_escapes, ih]
    rfl

theorem chars?_unitOf_cons (c : Char) (us : RawText) :
    RawText.chars? (unitOf c :: us) = us.chars?.map (c :: ·) := by
  unfold unitOf
  split
  · next hc =>
    have hlow := toNat_of_isControl hc.2
    conv_lhs => unfold RawText.chars?
    rw [if_neg (by omega), if_neg (by omega), Char.ofNat_toNat]
  · rw [RawText.chars?]

/-- The units of a text stand for it. -/
theorem string?_map_unitOf (s : String) : RawText.string? (s.toList.map unitOf) = some s := by
  have hchars : ∀ cs : List Char, RawText.chars? (cs.map unitOf) = some cs := by
    intro cs
    induction cs with
    | nil => rfl
    | cons c cs ih => rw [List.map_cons, chars?_unitOf_cons, ih, Option.map_some]
  unfold RawText.string?
  rw [hchars, Option.map_some, String.ofList_toList]

/-! ## Members -/

/-- A field as the reader sees it. -/
def treeOf (field : String × String) : RawText × Tree :=
  (field.1.toList.map unitOf, .string (field.2.toList.map unitOf))

theorem skipBlanks_cons {c : Char} (hc : Json.isBlank c = false) (cs : List Char) :
    Json.skipBlanks (c :: cs) = c :: cs := by
  unfold Json.skipBlanks
  rw [List.dropWhile_cons_of_neg (by simp [hc])]

theorem scanValue_quote (fuel : Nat) (s : String) (rest : List Char) :
    Json.scanValue (fuel + 1) (escapes.quote s ++ rest)
      = some (.string (s.toList.map unitOf), rest) := by
  have hquote : escapes.quote s ++ rest
      = '"' :: (s.toList.flatMap escapes.char ++ '"' :: rest) := by
    simp [Escapes.quote]
  rw [hquote, Json.scanValue, skipBlanks_cons rfl]
  simp only
  rw [scanString_quoted]
  rfl

/-- After a member, the object ends or goes on. -/
theorem scanFields_member (fuel : Nat) (field : String × String) (rest : List Char) :
    Json.scanFields (fuel + 2) (member field ++ rest) =
      match Json.skipBlanks rest with
      | '\x7d' :: rest => some ([treeOf field], rest)
      | ',' :: rest => do
        let (trees, rest) ← Json.scanFields (fuel + 1) rest
        return (treeOf field :: trees, rest)
      | _ => none := by
  have hmember : member field ++ rest
      = '"' :: (field.1.toList.flatMap escapes.char
          ++ '"' :: ':' :: (escapes.quote field.2 ++ rest)) := by
    simp [member, Escapes.quote]
  rw [hmember, Json.scanFields, skipBlanks_cons rfl]
  simp only [scanString_quoted, Option.bind_eq_bind, Option.bind_some]
  rw [skipBlanks_cons rfl]
  simp only [scanValue_quote, Option.bind_some]
  rfl

theorem written_singleton (field : String × String) : written [field] = member field :=
  List.intercalate_singleton

theorem written_cons_cons (field next : String × String) (fields : List (String × String)) :
    written (field :: next :: fields) = member field ++ ',' :: written (next :: fields) := by
  unfold written
  rw [List.map_cons, List.map_cons, List.intercalate_cons_cons, List.append_assoc]
  rfl

/-- Members are read one by one; every member takes one call. -/
theorem scanFields_written {fields : List (String × String)} (hne : fields ≠ [])
    {fuel : Nat} (hfuel : fields.length < fuel) (rest : List Char) :
    Json.scanFields fuel (written fields ++ '\x7d' :: rest)
      = some (fields.map treeOf, rest) := by
  -- the object spends one unit of fuel on a member, and one is left for the value of the last
  induction fields generalizing fuel with
  | nil => exact absurd rfl hne
  | cons field fields ih =>
    obtain ⟨fuel, rfl⟩ : ∃ n, fuel = n + 2 := ⟨fuel - 2, by simp at hfuel; omega⟩
    cases fields with
    | nil =>
      rw [written_singleton, scanFields_member, skipBlanks_cons rfl]
      rfl
    | cons next fields =>
      rw [written_cons_cons, List.append_assoc, scanFields_member, List.cons_append,
        skipBlanks_cons rfl]
      simp only
      rw [ih (List.cons_ne_nil _ _) (by simp at hfuel ⊢; omega)]
      rfl

/-- Members start with the quote of a key. -/
theorem exists_written {fields : List (String × String)} (hne : fields ≠ []) :
    ∃ cs, written fields = '"' :: cs := by
  match fields with
  | [] => exact absurd rfl hne
  | [field] => exact ⟨_, rfl⟩
  | field :: next :: fields => exact ⟨_, rfl⟩

theorem length_le_written (fields : List (String × String)) :
    fields.length ≤ (written fields).length := by
  have hmember : ∀ field, 1 ≤ (member field).length := by
    intro field
    simp [member, Escapes.quote]
  induction fields with
  | nil => exact Nat.zero_le _
  | cons field fields ih =>
    have hfield := hmember field
    cases fields with
    | nil => rwa [written_singleton]
    | cons next fields =>
      simp only [written_cons_cons, List.length_append, List.length_cons] at ih ⊢
      omega

theorem fieldValues?_treeOf (levels : Nat) (fields : List (String × String)) :
    Json.fieldValues? levels (fields.map treeOf)
      = some (fields.map fun f => (f.1, .str f.2)) := by
  induction fields with
  | nil => rfl
  | cons field fields ih =>
    rw [List.map_cons, treeOf, Json.fieldValues?, string?_map_unitOf, Tree.value?,
      string?_map_unitOf, ih]
    rfl

/-- An object of texts in one line is read as their object. -/
theorem ofText?_members {fields : List (String × String)} (hne : fields ≠ [])
    (hkeys : (fields.map (·.1)).Nodup) (levels : Nat) :
    Json.ofText?
        (String.ofList ('\x7b' :: written fields ++ ['\x7d', '\n'])) (levels + 1)
      = some (.obj (fields.map fun f => (f.1, .str f.2))) := by
  have hdistinct : Object.Distinct (fields.map fun f => (f.1, Json.str f.2)) := by
    unfold Object.Distinct Object.keys
    rwa [List.map_map]
  have hscan : ∀ fuel, fields.length < fuel → Json.scanValue (fuel + 1)
      ('\x7b' :: written fields ++ ['\x7d', '\n'])
        = some (.object (fields.map treeOf), ['\n']) := by
    intro fuel hfuel
    have hread := scanFields_written hne hfuel ['\n']
    obtain ⟨cs, hcs⟩ := exists_written hne
    rw [hcs, List.cons_append] at hread
    rw [hcs, List.cons_append, List.cons_append, Json.scanValue, skipBlanks_cons rfl]
    simp only
    rw [skipBlanks_cons rfl]
    show (Json.scanFields fuel ('"' :: (cs ++ ['\x7d', '\n']))).map _ = _
    rw [hread]
    rfl
  unfold Json.ofText? Tree.ofText?
  simp only [String.toList_ofList]
  -- the fuel exceeds the length of the text, and that the number of members
  rw [hscan _ (by have := length_le_written fields; simp; omega)]
  show Tree.value? (levels + 1) (.object (fields.map treeOf)) = _
  rw [Tree.value?, fieldValues?_treeOf, Option.map_some, Object.ofEntries_of_distinct hdistinct]

/-! ## Fields in order -/

theorem sortFields_perm (fields : List (String × String)) : (sortFields fields).Perm fields :=
  sortStable_perm _ fields

theorem pairwise_sortFields (fields : List (String × String)) :
    (sortFields fields).Pairwise fun a b => a.1 ≤ b.1 := by
  have htrans : TransOn (compareOn (·.1)) fields := fun _ _ _ _ _ _ => Std.TransCmp.isLE_trans
  have hle : ∀ a b : String × String, (compareOn (·.1) a b).isLE → a.1 ≤ b.1 := fun _ _ =>
    (isLE_compareOfLessAndEq Std.le_antisymm String.not_le fun _ _ => Std.le_total).1
  exact (pairwise_sortStable htrans).imp (hle _ _)

/-- Fields whose keys differ are sorted strictly. -/
theorem ascending_sortFields {fields : List (String × String)}
    (hkeys : (fields.map (·.1)).Nodup) :
    (sortFields fields).Pairwise fun a b => a.1 < b.1 := by
  have hne : (sortFields fields).Pairwise fun a b => a.1 ≠ b.1 :=
    List.pairwise_map.1 (((sortFields_perm fields).map _).nodup_iff.2 hkeys)
  exact (pairwise_sortFields fields).imp₂ (fun _ _ hle hne => Std.lt_of_le_of_ne hle hne) hne

/-- The order in which fields with different keys are given is not seen. -/
theorem sortFields_of_perm {fields fields' : List (String × String)}
    (hkeys : (fields.map (·.1)).Nodup) (hp : fields'.Perm fields) :
    sortFields fields' = sortFields fields := by
  have hkeys' : (fields'.map (·.1)).Nodup := (hp.map _).nodup_iff.2 hkeys
  have hsorted : (sortFields fields').Perm (sortFields fields) :=
    (sortFields_perm fields').trans (hp.trans (sortFields_perm fields).symm)
  exact hsorted.eq_of_pairwise (fun _ _ _ _ hab hba => absurd hba (String.lt_asymm hab))
    (ascending_sortFields hkeys') (ascending_sortFields hkeys)

/-! ## One line -/

/-- No control stands in a line as it is. -/
theorem isControl_escapes (c : Char) : ∀ d ∈ escapes.char c, isControl d = false := by
  have hdigit : ∀ i : Fin 16, isControl (Hex.digit i) = false := by decide
  unfold Escapes.char
  split
  · next letter hletter =>
    have hplain : ∀ e ∈ escapes.letters, isControl e.2 = false := by simp [escapes, isControl]
    exact List.forall_mem_cons.2
      ⟨rfl, List.forall_mem_singleton.2 (hplain _ (mem_letters_of_lookup hletter))⟩
  split
  · simp only [escapes, Hex.code, List.forall_mem_cons]
    exact ⟨rfl, rfl, rfl, rfl, hdigit _, hdigit _, List.forall_mem_nil _⟩
  · next hc => exact List.forall_mem_singleton.2 (Bool.eq_false_iff.2 hc)

theorem isControl_quote (s : String) : ∀ d ∈ escapes.quote s, isControl d = false := by
  have hchars : ∀ d ∈ s.toList.flatMap escapes.char, isControl d = false := by
    intro d hd
    obtain ⟨c, -, hd⟩ := List.mem_flatMap.1 hd
    exact isControl_escapes c d hd
  unfold Escapes.quote
  exact List.forall_mem_append.2
    ⟨List.forall_mem_cons.2 ⟨rfl, hchars⟩, List.forall_mem_singleton.2 rfl⟩

theorem isControl_written (fields : List (String × String)) :
    ∀ d ∈ written fields, isControl d = false := by
  have hmember : ∀ field, ∀ d ∈ member field, isControl d = false := by
    intro field
    unfold member
    exact List.forall_mem_append.2
      ⟨isControl_quote field.1, List.forall_mem_cons.2 ⟨rfl, isControl_quote field.2⟩⟩
  induction fields with
  | nil => exact List.forall_mem_nil _
  | cons field fields ih =>
    cases fields with
    | nil =>
      rw [written_singleton]
      exact hmember field
    | cons next fields =>
      rw [written_cons_cons]
      exact List.forall_mem_append.2 ⟨hmember field, List.forall_mem_cons.2 ⟨rfl, ih⟩⟩

/-- No control stands in a line but its line break. -/
theorem line_eq_append (severity : Severity) (event : String) (fields : List (String × String)) :
    ∃ body : String, line severity event fields = body ++ "\n" ∧
      ∀ c ∈ body.toList, isControl c = false := by
  refine ⟨String.ofList ('\x7b' :: written (members severity event fields) ++
    ['\x7d']), ?_, ?_⟩
  · have hbreak : "\n" = String.ofList ['\n'] := rfl
    rw [hbreak, ← String.ofList_append, List.append_assoc]
    rfl
  · rw [String.toList_ofList]
    exact List.forall_mem_append.2
      ⟨List.forall_mem_cons.2 ⟨rfl, isControl_written _⟩, List.forall_mem_singleton.2 rfl⟩

/-- A line is one line. It is read as an object of the event, its severity and the fields, in that
order and the fields in ascending order of their keys; in which order they were given is not seen. -/
theorem line_reads_back (severity : Severity) (event : String) {fields : List (String × String)}
    (hkeys : (fields.map (·.1)).Nodup) (hevent : "event" ∉ fields.map (·.1))
    (hseverity : "severity" ∉ fields.map (·.1)) :
    (∃ body : String, line severity event fields = body ++ "\n" ∧ '\n' ∉ body.toList) ∧
    (∃ sorted : List (String × String), sorted.Perm fields ∧
      (sorted.Pairwise fun f g => f.1 < g.1) ∧
      Json.ofText? (line severity event fields) Json.levelLimit
        = some (.obj (("event", .str event) :: ("severity", .str severity.name) ::
            sorted.map fun f => (f.1, .str f.2)))) ∧
    ∀ fields', fields'.Perm fields → line severity event fields' = line severity event fields := by
  have hsorted := ((sortFields_perm fields).map (·.1))
  have hmembers : ((members severity event fields).map (·.1)).Nodup := by
    show ("event" :: "severity" :: (sortFields fields).map (·.1)).Nodup
    rw [List.nodup_cons, List.nodup_cons, List.mem_cons, hsorted.mem_iff, hsorted.mem_iff,
      hsorted.nodup_iff, not_or]
    exact ⟨⟨by decide, hevent⟩, hseverity, hkeys⟩
  refine ⟨?_, ⟨sortFields fields, sortFields_perm fields, ascending_sortFields hkeys, ?_⟩,
    fun fields' hp => ?_⟩
  · obtain ⟨body, hbody, hcontrol⟩ := line_eq_append severity event fields
    refine ⟨body, hbody, fun hm => ?_⟩
    have hbreak := hcontrol _ hm
    cases hbreak
  · exact ofText?_members (List.cons_ne_nil _ _) hmembers 126
  · unfold line members
    rw [sortFields_of_perm hkeys hp]

/-- A line whose fields come out of order, and break lines and quotes. -/
theorem line_reads_back_fruits :
    ([("zebra", "1"), ("apple", "\"\n\"")].map (·.1)).Nodup ∧
    "event" ∉ [("zebra", "1"), ("apple", "\"\n\"")].map (·.1) ∧
    "severity" ∉ [("zebra", "1"), ("apple", "\"\n\"")].map (·.1) ∧
    (∃ body : String, line .warn "TEST" [("zebra", "1"), ("apple", "\"\n\"")] = body ++ "\n" ∧
      '\n' ∉ body.toList) ∧
    Json.ofText? (line .warn "TEST" [("zebra", "1"), ("apple", "\"\n\"")]) Json.levelLimit
      = some (.obj [("event", .str "TEST"), ("severity", .str "WARN"), ("apple", .str "\"\n\""),
          ("zebra", .str "1")]) := by
  have hkeys : ([("zebra", "1"), ("apple", "\"\n\"")].map (·.1)).Nodup := by decide
  have hevent : "event" ∉ [("zebra", "1"), ("apple", "\"\n\"")].map (·.1) := by decide
  have hseverity : "severity" ∉ [("zebra", "1"), ("apple", "\"\n\"")].map (·.1) := by decide
  obtain ⟨hline, ⟨sorted, hperm, hsorted, hread⟩, -⟩ :=
    line_reads_back .warn "TEST" hkeys hevent hseverity
  have hfruits : sorted = [("apple", "\"\n\""), ("zebra", "1")] :=
    (hperm.trans (.swap _ _ [])).eq_of_pairwise
      (fun _ _ _ _ hab hba => absurd hba (String.lt_asymm hab)) hsorted (by decide)
  rw [hfruits] at hread
  exact ⟨hkeys, hevent, hseverity, hline, hread⟩

end Log

end DocStore
