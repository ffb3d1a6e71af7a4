-- What is written as JSON is read back: each value that has no decimals is
-- found again at the front of its text, whatever stands after it.
import Checkout.Json.Reader
import Checkout.Proofs.Text

namespace Checkout.Json

/-! ## Quoted text -/

theorem hexFour?_control : ∀ n < 32,
    hexFour? '0' '0' (Text.hexChar (n / 16)) (Text.hexChar (n % 16)) = some n := by
  decide

/-- An escaped character is read as one character. -/
theorem quotedRest_escape (c : Char) (cs read : List Char) :
    quotedRest (escape c ++ cs) none (some read) = quotedRest cs none (some (c :: read)) := by
  unfold escape
  iterate 7
    split
    · subst_vars
      rfl
  split
  · rename_i hlow
    have hhigh : isHighSurrogate c.toNat = false := by
      simp only [isHighSurrogate, Bool.and_eq_false_iff, decide_eq_false_iff_not]
      omega
    have hpaired : isLowSurrogate c.toNat = false := by
      simp only [isLowSurrogate, Bool.and_eq_false_iff, decide_eq_false_iff_not]
      omega
    simp only [List.cons_append, List.nil_append]
    rw [quotedRest, hexFour?_control _ hlow]
    simp [hhigh, hpaired, unlessHalf]
  · rename_i hquote hslash _ _ _ _ _ hlow
    simp only [List.cons_append, List.nil_append]
    rw [quotedRest.eq_def]
    split
    · simp_all
    · simp_all
    · simp_all
    · simp_all
    · rename_i heq
      cases heq
      rw [if_neg (by simp [hlow, hslash])]
      rfl

theorem quotedRest_text (cs rest read : List Char) :
    quotedRest (cs.flatMap escape ++ '"' :: rest) none (some read) =
      some (some (String.ofList (read.reverse ++ cs)), rest) := by
  induction cs generalizing read with
  | nil => simp [quotedRest, unlessHalf]
  | cons c cs ih => simp [List.flatMap_cons, quotedRest_escape, ih]

/-- Text is read up to its own closing quote. -/
theorem quoted?_text (s : String) (rest : List Char) :
    quoted? (s.toList.flatMap escape ++ '"' :: rest) = some (some s, rest) := by
  rw [quoted?, quotedRest_text]
  simp

/-! ## Whole numbers -/

/-- What follows a number does not go on with it. -/
def EndsNumber (rest : List Char) : Prop :=
  ∀ c ∈ rest.head?, c.isDigit = false ∧ c ≠ '.' ∧ c ≠ 'e' ∧ c ≠ 'E'

theorem endsNumber_nil : EndsNumber [] := by simp [EndsNumber]

theorem digits_then {rest : List Char} (n : Nat) (h : EndsNumber rest) :
    (Text.digits n ++ rest).takeWhile Char.isDigit = Text.digits n ∧
      (Text.digits n ++ rest).dropWhile Char.isDigit = rest := by
  have hdigits := List.all_eq_true.mp (Text.all_isDigit_digits n)
  rw [List.takeWhile_append_of_pos hdigits, List.dropWhile_append_of_pos hdigits]
  cases rest with
  | nil => simp
  | cons c rest => simp [(h c rfl).1]

/-- No number is written with a zero in front, so that it is read in full. -/
theorem digits_front (n : Nat) :
    ((Text.digits n).isEmpty ||
      ((Text.digits n).head? == some '0' && (Text.digits n).length != 1)) = false := by
  have hne : (Text.digits n).isEmpty = false := by simpa using Text.digits_ne_nil n
  rw [hne, Bool.false_or]
  by_cases h : 0 < n
  · simp [Text.head?_digits h]
  · obtain rfl : n = 0 := by omega
    have hzero : Text.digits 0 = ['0'] := by
      rw [Text.digits]
      rfl
    rw [hzero]
    rfl

theorem numeral?_intChars {rest : List Char} (n : Int) (h : EndsNumber rest) :
    numeral? (Text.intChars n ++ rest) =
      some (⟨decide (n < 0), Text.digits n.natAbs, none, none⟩, rest) := by
  obtain ⟨htake, hdrop⟩ := digits_then n.natAbs h
  unfold numeral?
  split
  rename_i negative cs hsign
  have hparts : negative = decide (n < 0) ∧ cs = Text.digits n.natAbs ++ rest := by
    unfold Text.intChars at hsign
    by_cases hneg : n < 0
    · rw [if_pos hneg] at hsign
      cases hsign
      simp [hneg]
    · rw [if_neg hneg] at hsign
      split at hsign
      · rename_i heq
        have hminus : '-' ∈ (Text.digits n.natAbs).head? := by
          rw [← List.head?_append_of_ne_nil _ (Text.digits_ne_nil _), heq]
          rfl
        exact absurd (List.all_eq_true.mp (Text.all_isDigit_digits _) _
          (List.mem_of_mem_head? hminus)) (by decide)
      · cases hsign
        simp [hneg]
  obtain ⟨rfl, rfl⟩ := hparts
  simp only [htake, hdrop, digits_front, Bool.false_eq_true, if_false]
  split
  · exact absurd rfl (h _ rfl).2.1
  · simp only [bind, Option.bind]
    split
    · exact absurd rfl (h _ rfl).2.2.1
    · exact absurd rfl (h _ rfl).2.2.2
    · rfl

theorem numeral_value {n : Int} (h : Fits n) :
    (⟨decide (n < 0), Text.digits n.natAbs, none, none⟩ : Numeral).value = .integer n := by
  unfold Numeral.value
  simp only [Text.valueOf_digits, Option.isNone_none, Bool.true_and, largestSignificand]
  by_cases hneg : n < 0
  · have hne : (n.natAbs != 0) = true := by
      rw [bne_iff_ne]
      omega
    have hroom : n.natAbs ≤ 9223372036854775808 := by omega
    simp only [hneg, decide_true, Bool.not_true, Bool.false_and, Bool.false_eq_true, if_false, hne,
      hroom, Bool.and_self, if_true]
    congr 1
    omega
  · have hroom : n.natAbs ≤ 18446744073709551615 := by omega
    simp only [hneg, decide_false, Bool.not_false, hroom, decide_true, Bool.and_self, if_true]
    congr 1
    omega

/-! ## Values -/

/-- A value without decimals, all of whose numbers fit 64 bits. -/
inductive Plain : Json → Prop
  | null : Plain .null
  | bool (b : Bool) : Plain (.bool b)
  | integer {n : Int} (h : Fits n) : Plain (.integer n)
  | string (s : String) : Plain (.string s)
  | array {items : List Json} (h : ∀ j ∈ items, Plain j) : Plain (.array items)
  | object {ms : List (String × Json)} (h : ∀ m ∈ ms, Plain m.2) : Plain (.object ms)

/-- Given as many turns as its text has characters, the value is found at the front of a text. -/
def ReadsBack (j : Json) : Prop :=
  ∀ (fuel : Nat) (rest : List Char), (chars j).length ≤ fuel → EndsNumber rest →
    value? fuel (chars j ++ rest) = some (j, rest)

theorem skipSpace_cons {c : Char} (cs : List Char) (h : isSpace c = false) :
    skipSpace (c :: cs) = c :: cs := by
  simp [skipSpace, h]

theorem intChars_front (n : Int) :
    ∃ c cs, Text.intChars n = c :: cs ∧ (c = '-' ∨ c.isDigit = true) := by
  unfold Text.intChars
  split
  · exact ⟨_, _, rfl, .inl rfl⟩
  · obtain ⟨d, ds, hds⟩ := List.exists_cons_of_ne_nil (Text.digits_ne_nil n.natAbs)
    have hd := List.all_eq_true.mp (Text.all_isDigit_digits n.natAbs) d (by simp [hds])
    exact ⟨d, ds, hds, .inr hd⟩

theorem not_isSpace_of_number {c : Char} (h : c = '-' ∨ c.isDigit = true) :
    isSpace c = false := by
  rcases h with rfl | h
  · decide
  · simp only [isSpace, Bool.or_eq_false_iff, beq_eq_false_iff_ne]
    refine ⟨⟨⟨?_, ?_⟩, ?_⟩, ?_⟩ <;> (rintro rfl; revert h; decide)

/-- A number is read where no other value begins. -/
theorem value?_number {c : Char} (cs : List Char) (h : c = '-' ∨ c.isDigit = true) (fuel : Nat) :
    value? (fuel + 1) (c :: cs) = (numeral? (c :: cs)).map fun p => (p.1.value, p.2) := by
  have hne : ∀ d ∈ ['n', 't', 'f', '"', '[', '\x7b'], c ≠ d := by
    rintro d hd rfl
    simp only [List.mem_cons, List.not_mem_nil, or_false] at hd
    rcases hd with rfl | rfl | rfl | rfl | rfl | rfl <;> revert h <;> decide
  unfold value?
  rw [skipSpace_cons cs (not_isSpace_of_number h)]
  split
  · simp_all
  · simp_all
  · simp_all
  · simp_all
  · simp_all
  · simp_all
  · cases numeral? (c :: cs) <;> rfl

theorem readsBack_integer {n : Int} (h : Fits n) : ReadsBack (.integer n) := by
  intro fuel rest hfuel hrest
  obtain ⟨c, cs, hcs, hc⟩ := intChars_front n
  have hnumeral := numeral?_intChars n hrest
  rw [chars, hcs] at hfuel ⊢
  rw [hcs] at hnumeral
  obtain ⟨turns, rfl⟩ := Nat.exists_eq_add_of_le' (show 1 ≤ fuel by simp at hfuel; omega)
  rw [List.cons_append] at hnumeral ⊢
  rw [value?_number _ hc, hnumeral]
  simp [numeral_value h]

theorem readsBack_string (s : String) : ReadsBack (.string s) := by
  intro fuel rest hfuel _
  rw [chars, quoted] at hfuel ⊢
  obtain ⟨turns, rfl⟩ := Nat.exists_eq_add_of_le' (show 1 ≤ fuel by simp at hfuel; omega)
  simp only [List.cons_append, List.append_assoc, List.nil_append]
  unfold value?
  rw [skipSpace_cons _ (by decide)]
  simp [quoted?_text]

/-! ## Arrays -/

theorem endsNumber_items (js : List Json) (rest : List Char) :
    EndsNumber (charsOfItems js ++ rest) := by
  cases js <;> simp [charsOfItems, EndsNumber]

/-- Items are read one after another, up to the closing bracket. -/
theorem items?_chars {j : Json} {js : List Json} (h : ∀ i ∈ j :: js, ReadsBack i) {fuel : Nat}
    (rest : List Char) (hfuel : (chars j ++ charsOfItems js).length ≤ fuel) :
    items? fuel (chars j ++ (charsOfItems js ++ rest)) = some (j :: js, rest) := by
  induction js generalizing j fuel with
  | nil =>
    simp only [charsOfItems, List.length_append, List.length_singleton] at hfuel
    obtain ⟨turns, rfl⟩ := Nat.exists_eq_add_of_le' (show 1 ≤ fuel by omega)
    have hj := h j List.mem_cons_self turns _ (by omega) (endsNumber_items [] rest)
    unfold items?
    rw [hj]
    simp only [bind, Option.bind, charsOfItems, List.cons_append, List.nil_append,
      skipSpace_cons rest (show isSpace ']' = false by decide)]
    rfl
  | cons k ks ih =>
    simp only [charsOfItems, List.length_append, List.length_cons] at hfuel ih
    obtain ⟨turns, rfl⟩ := Nat.exists_eq_add_of_le' (show 1 ≤ fuel by omega)
    have hj := h j List.mem_cons_self turns _ (by omega) (endsNumber_items (k :: ks) rest)
    have hks := ih (fun i hi => h i (List.mem_cons_of_mem j hi)) (show _ ≤ turns by omega)
    unfold items?
    rw [hj]
    simp only [bind, Option.bind, charsOfItems, List.cons_append, List.append_assoc,
      skipSpace_cons _ (show isSpace ',' = false by decide), hks]
    rfl

/-- No value begins with a blank or a closing bracket. -/
theorem Plain.front {j : Json} (h : Plain j) :
    ∃ c cs, chars j = c :: cs ∧ isSpace c = false ∧ c ≠ ']' := by
  cases h with
  | null => exact ⟨_, _, rfl, by decide, by decide⟩
  | bool b => cases b <;> exact ⟨_, _, rfl, by decide, by decide⟩
  | @integer n _ =>
    obtain ⟨c, cs, hcs, hc⟩ := intChars_front n
    refine ⟨c, cs, by rw [chars, hcs], not_isSpace_of_number hc, ?_⟩
    rintro rfl
    revert hc
    decide
  | string s => exact ⟨_, _, rfl, by decide, by decide⟩
  | @array items _ => cases items <;> exact ⟨'[', _, by rw [chars], by decide, by decide⟩
  | @object ms _ => cases ms <;> exact ⟨'\x7b', _, by rw [chars], by decide, by decide⟩

theorem readsBack_array {items : List Json} (hplain : ∀ j ∈ items, Plain j)
    (h : ∀ j ∈ items, ReadsBack j) : ReadsBack (.array items) := by
  intro fuel rest hfuel _
  cases items with
  | nil =>
    obtain ⟨turns, rfl⟩ := Nat.exists_eq_add_of_le' (show 1 ≤ fuel by simp [chars] at hfuel; omega)
    simp only [chars, List.cons_append, List.nil_append]
    unfold value?
    rw [skipSpace_cons _ (by decide)]
    simp [skipSpace_cons _ (show isSpace ']' = false by decide)]
  | cons j js =>
    obtain ⟨c, cs, hcs, hspace, hc⟩ := (hplain j List.mem_cons_self).front
    simp only [chars, List.length_cons] at hfuel
    obtain ⟨turns, rfl⟩ := Nat.exists_eq_add_of_le' (show 1 ≤ fuel by omega)
    have hitems := items?_chars h rest (show _ ≤ turns by omega)
    have hskip : skipSpace (chars j ++ (charsOfItems js ++ rest)) =
        chars j ++ (charsOfItems js ++ rest) := by
      rw [hcs, List.cons_append, skipSpace_cons _ hspace]
    simp only [chars, List.cons_append, List.append_assoc]
    unfold value?
    rw [skipSpace_cons _ (by decide)]
    simp only [hskip]
    split
    · rename_i heq
      rw [hcs] at heq
      simp_all
    · simp [hitems]

/-! ## Objects -/

theorem endsNumber_members (ms : List (String × Json)) (rest : List Char) :
    EndsNumber (charsOfMembers ms ++ rest) := by
  cases ms <;> simp [charsOfMembers, EndsNumber]

/-- A member as it is read, before it is known that no name is spoiled. -/
def readMember (m : String × Json) : Option String × Json := (some m.1, m.2)

theorem ofMembers_read (ms : List (String × Json)) : ofMembers (ms.map readMember) = .object ms := by
  simp [ofMembers, readMember, Function.comp_def]

/-- Members are read one after another, up to the closing brace. -/
theorem members?_chars {m : String × Json} {ms : List (String × Json)}
    (h : ∀ n ∈ m :: ms, ReadsBack n.2) {fuel : Nat} (rest : List Char)
    (hfuel : (quoted m.1 ++ ':' :: (chars m.2 ++ charsOfMembers ms)).length ≤ fuel) :
    members? fuel (quoted m.1 ++ ':' :: (chars m.2 ++ (charsOfMembers ms ++ rest))) =
      some ((m :: ms).map readMember, rest) := by
  induction ms generalizing m fuel with
  | nil =>
    simp only [charsOfMembers, List.length_append, List.length_cons, List.length_nil] at hfuel
    obtain ⟨turns, rfl⟩ := Nat.exists_eq_add_of_le' (show 1 ≤ fuel by omega)
    have hm := h m List.mem_cons_self turns _ (by omega) (endsNumber_members [] rest)
    rw [members?]
    simp only [quoted, List.cons_append, List.append_assoc, List.nil_append,
      skipSpace_cons _ (show isSpace '"' = false by decide), quoted?_text, bind, Option.bind,
      skipSpace_cons _ (show isSpace ':' = false by decide), hm]
    simp only [charsOfMembers, List.cons_append, List.nil_append,
      skipSpace_cons rest (show isSpace '\x7d' = false by decide)]
    rfl
  | cons k ks ih =>
    simp only [charsOfMembers, List.length_append, List.length_cons] at hfuel ih
    obtain ⟨turns, rfl⟩ := Nat.exists_eq_add_of_le' (show 1 ≤ fuel by omega)
    have hm := h m List.mem_cons_self turns _ (by omega) (endsNumber_members (k :: ks) rest)
    have hks := ih (fun n hn => h n (List.mem_cons_of_mem m hn)) (show _ ≤ turns by omega)
    rw [members?]
    simp only [quoted, List.cons_append, List.append_assoc, List.nil_append,
      skipSpace_cons _ (show isSpace '"' = false by decide), quoted?_text, bind, Option.bind,
      skipSpace_cons _ (show isSpace ':' = false by decide), hm]
    simp only [charsOfMembers, List.cons_append, List.append_assoc,
      skipSpace_cons _ (show isSpace ',' = false by decide), hks]
    rfl

theorem readsBack_object {ms : List (String × Json)} (h : ∀ m ∈ ms, ReadsBack m.2) :
    ReadsBack (.object ms) := by
  intro fuel rest hfuel _
  cases ms with
  | nil =>
    obtain ⟨turns, rfl⟩ := Nat.exists_eq_add_of_le' (show 1 ≤ fuel by simp [chars] at hfuel; omega)
    simp only [chars, List.cons_append, List.nil_append]
    rw [value?, skipSpace_cons _ (by decide)]
    simp [skipSpace_cons _ (show isSpace '\x7d' = false by decide)]
  | cons m ms =>
    simp only [chars, List.length_cons] at hfuel
    obtain ⟨turns, rfl⟩ := Nat.exists_eq_add_of_le' (show 1 ≤ fuel by omega)
    have hmembers := members?_chars h rest (show _ ≤ turns by omega)
    have hquote : skipSpace (quoted m.1 ++ ':' :: (chars m.2 ++ (charsOfMembers ms ++ rest))) =
        quoted m.1 ++ ':' :: (chars m.2 ++ (charsOfMembers ms ++ rest)) :=
      skipSpace_cons _ (by decide)
    simp only [chars, List.cons_append, List.append_assoc]
    rw [value?, skipSpace_cons _ (by decide)]
    simp only [hquote]
    split
    · rename_i heq
      cases heq
    · simp only [hmembers, bind, Option.bind, ofMembers_read]
      rfl

/-! ## A whole text -/

theorem Plain.readsBack {j : Json} (h : Plain j) : ReadsBack j := by
  induction h with
  | null =>
    intro fuel rest hfuel _
    obtain ⟨turns, rfl⟩ := Nat.exists_eq_add_of_le' (show 1 ≤ fuel by simp [chars] at hfuel; omega)
    rfl
  | bool b =>
    intro fuel rest hfuel _
    have hpos : 1 ≤ fuel := by cases b <;> simp [chars] at hfuel <;> omega
    obtain ⟨turns, rfl⟩ := Nat.exists_eq_add_of_le' hpos
    cases b <;> rfl
  | integer h => exact readsBack_integer h
  | string s => exact readsBack_string s
  | array h ih => exact readsBack_array h ih
  | object _ ih => exact readsBack_object ih

theorem Plain.ofChars?_chars {j : Json} (h : Plain j) : ofChars? j.chars = some (j, []) := by
  have hread := h.readsBack (2 * j.chars.length + 2) [] (by omega) endsNumber_nil
  rwa [List.append_nil] at hread

/-- A value without decimals is read back from its text. -/
theorem Plain.ofText?_text {j : Json} (h : Plain j) : ofText? j.text = some j := by
  rw [ofText?, text, String.toList_ofList, h.ofChars?_chars]
  rfl

end Checkout.Json
