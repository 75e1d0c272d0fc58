import Geofencing.Proofs.Quoted

/-!
# JSON values and back

A value that holds no other numbers than integers of at most 64 bits is read from its written form,
whatever texts, arrays and objects it is made of: `Json.decodeBytes_chars`.

A numeral has no closing character, so what is read of it depends on what follows it. Inside of an
array or object that is a comma or the closing bracket (`Reader.Ends`). The induction is on the
value, with as many steps of the reader as the value has characters: `Reader.value_chars`.
-/

namespace Geofencing

/-! ## Decimal digits -/

namespace Numeral

/-- The decimal digits of a number, as numbers. -/
def decimals (n : Nat) : List Nat :=
  (Nat.toDigits 10 n).map fun c => c.toNat - '0'.toNat

/-- A number's digits are those of its tenth part, then its last one. -/
theorem decimals_eq (n : Nat) :
    decimals n = if n < 10 then [n] else decimals (n / 10) ++ [n % 10] := by
  have hdigit : ∀ d < 10, (Nat.digitChar d).toNat - '0'.toNat = d :=
    fun _ => Nat.toNat_digitChar_sub_48_of_lt_ten
  rw [decimals, Nat.toDigits_eq_if (by decide)]
  split
  · rename_i h
    rw [List.map_singleton, hdigit n h]
  · rw [List.map_append, List.map_singleton, hdigit _ (Nat.mod_lt n (by decide)), decimals]

theorem decimals_ne_nil (n : Nat) : decimals n ≠ [] := by
  simp [decimals, Nat.toDigits_ne_nil]

/-- Only zero has a zero in front. -/
theorem head?_decimals {n : Nat} (h : n ≠ 0) : (decimals n).head? ≠ some 0 := by
  induction n using Nat.strongRecOn with
  | ind n ih =>
    rw [decimals_eq]
    split
    · simpa using h
    · rw [List.head?_append_of_ne_nil _ (decimals_ne_nil _)]
      exact ih (n / 10) (by omega) (by omega)

section Gather

/-- The number that digits spell after an accumulated front part. -/
abbrev spelled (acc : Nat) (ds : List Nat) : Nat := ds.foldl (fun acc d => acc * 10 + d) acc

theorem le_spelled (acc : Nat) (ds : List Nat) : acc ≤ spelled acc ds := by
  induction ds generalizing acc with
  | nil => exact Nat.le_refl acc
  | cons d ds ih =>
    have hd : acc ≤ acc * 10 + d := by omega
    exact Nat.le_trans hd (ih (acc * 10 + d))

/-- Digits that fit are all gathered. -/
theorem gather_of_le {acc : Nat} {ds : List Nat} (h : spelled acc ds ≤ maxSignificand) :
    gather acc ds = (spelled acc ds, []) := by
  induction ds generalizing acc with
  | nil => rfl
  | cons d ds ih =>
    have hd : acc * 10 + d ≤ maxSignificand := Nat.le_trans (le_spelled _ ds) h
    rw [gather, if_pos hd, ih h]
    rfl

/-- A number's digits spell the number. -/
theorem spelled_decimals (n : Nat) : spelled 0 (decimals n) = n := by
  have hn := Nat.ofDigitChars_ten_toDigits (n := n)
  rw [Nat.ofDigitChars_eq_foldl] at hn
  rw [spelled, decimals, List.foldl_map]
  simpa only [Nat.mul_comm] using hn

/-- The digits of a number within the significand are gathered whole. -/
theorem gather_decimals {n : Nat} (h : n ≤ maxSignificand) : gather 0 (decimals n) = (n, []) := by
  rw [gather_of_le, spelled_decimals]
  rwa [spelled_decimals]

end Gather

/-- An integer of at most 64 bits, with or without a sign. -/
def Fits (i : Int) : Prop := Width.int64Min ≤ i ∧ i ≤ Width.nat64Max

/-- The numeral that an integer is written as. -/
def ofInt (i : Int) : Numeral := ⟨decide (i < 0), decimals i.natAbs, none, none⟩

/-- The numeral of an integer the reader can hold has that integer for its value. -/
theorem value?_ofInt {i : Int} (h : Fits i) : (ofInt i).value? = some (.int i) := by
  simp only [Fits, Width.int64Min, Width.nat64Max] at h
  -- All digits fit, so the value does not become a float.
  have hgather : gather 0 (decimals i.natAbs) = (i.natAbs, []) := by
    apply gather_decimals
    rw [maxSignificand, Width.nat64Max]
    omega
  rw [value?, ofInt]
  simp only [hgather]
  split
  · rename_i hnonneg
    rw [decide_eq_true_eq, Int.not_lt] at hnonneg
    rw [Option.some.injEq, Number.int.injEq]
    omega
  · rename_i hnegative
    rw [decide_eq_true_eq, Int.not_lt, Int.not_le] at hnegative
    rw [if_neg (by omega), Option.some.injEq, Number.int.injEq]
    omega

end Numeral

namespace Json

/-! ## Numerals -/

namespace Reader

/-- A text at which no numeral goes on: it is at its end, or an item or member ends there. -/
def Ends (rest : List Char) : Prop := ∀ c ∈ rest.head?, c = ',' ∨ c = ']' ∨ c = '\x7d'

theorem ends_nil : Ends [] := nofun

/-- A comma or a closing bracket ends a number. -/
theorem ends_cons {c : Char} (h : c = ',' ∨ c = ']' ∨ c = '\x7d') (rest : List Char) :
    Ends (c :: rest) := by
  rintro d ⟨⟩
  exact h

section Numerals

variable {rest : List Char}

/-- A decimal digit's value is its distance from zero. -/
theorem digit?_of_isDigit {c : Char} (h : c.isDigit = true) :
    digit? c = some (c.toNat - '0'.toNat) := by
  rw [digit?, if_pos]
  simpa [Char.isDigit, Char.le_def] using h

/-- Digits at the front are gathered together with those that follow them. -/
theorem digits_append_eq {cs : List Char} (h : ∀ c ∈ cs, c.isDigit = true) (rest : List Char) :
    digits (cs ++ rest) =
      ((cs.map fun c => c.toNat - '0'.toNat) ++ (digits rest).1, (digits rest).2) := by
  induction cs with
  | nil => rfl
  | cons c cs ih =>
    obtain ⟨hc, hcs⟩ := List.forall_mem_cons.1 h
    simp only [List.cons_append, List.map_cons, digits, digit?_of_isDigit hc, ih hcs]

/-- Digits up to the end of a number are read whole. -/
theorem digits_append {cs : List Char} (h : ∀ c ∈ cs, c.isDigit = true) (hends : Ends rest) :
    digits (cs ++ rest) = (cs.map fun c => c.toNat - '0'.toNat, rest) := by
  -- What may follow the digits is not a digit, so none is gathered beyond them.
  have hrest : digits rest = ([], rest) := by
    cases rest with
    | nil => rfl
    | cons c rest =>
      have hc : digit? c = none := by
        rcases hends c rfl with rfl | rfl | rfl <;> rfl
      simp only [digits, hc]
  rw [digits_append_eq h, hrest, List.append_nil]

/-- Nothing that ends a number starts a fraction. -/
theorem fractionPart_of_ends (h : Ends rest) : fractionPart rest = some (none, rest) := by
  rw [fractionPart.eq_def]
  split
  · exact absurd (h '.' rfl) (by decide)
  · rfl

theorem exponentPart_of_ends (h : Ends rest) : exponentPart rest = some (none, rest) := by
  cases rest with
  | nil => rfl
  | cons c rest =>
    have hc : ¬(c = 'e' ∨ c = 'E') := by
      rcases h c rfl with rfl | rfl | rfl <;> decide
    rw [exponentPart.eq_def]
    exact if_neg hc

/-- A number is written in decimal digits only. -/
theorem isDigit_of_mem_toDigits {n : Nat} : ∀ c ∈ Nat.toDigits 10 n, c.isDigit = true :=
  fun _ h => Nat.isDigit_of_mem_toDigits (by decide) (by decide) h

/-- A digit stands in front. -/
theorem exists_toDigits (n : Nat) :
    ∃ d ds, Nat.toDigits 10 n = d :: ds ∧ d.isDigit = true := by
  obtain ⟨d, ds, hds⟩ := List.exists_cons_of_ne_nil (Nat.toDigits_ne_nil (n := n) (b := 10))
  exact ⟨d, ds, hds, isDigit_of_mem_toDigits d (hds ▸ List.mem_cons_self)⟩

/-- The digits of a natural number are read back as its numeral. -/
theorem unsigned_toDigits (negative : Bool) (n : Nat) (h : Ends rest) :
    unsigned negative (Nat.toDigits 10 n ++ rest) =
      some (⟨negative, Numeral.decimals n, none, none⟩, rest) := by
  have hdigits : digits (Nat.toDigits 10 n ++ rest) = (Numeral.decimals n, rest) :=
    digits_append isDigit_of_mem_toDigits h
  have hwhole : ((Numeral.decimals n).isEmpty || ((Numeral.decimals n).head? == some 0 &&
      decide (1 < (Numeral.decimals n).length))) = false := by
    by_cases hn : n = 0
    · subst hn
      decide
    · simp [Numeral.decimals_ne_nil, Numeral.head?_decimals hn]
  rw [unsigned, hdigits]
  simp only [hwhole, Bool.false_eq_true, if_false, fractionPart_of_ends h, exponentPart_of_ends h,
    Option.bind_eq_bind, Option.bind_some, Option.pure_def]

/-- An integer is written with a sign if it is negative, and with the digits of its magnitude. -/
theorem numeral_eq (i : Int) :
    Json.numeral (.int i) = (if i < 0 then ['-'] else []) ++ Nat.toDigits 10 i.natAbs := by
  rw [Json.numeral]
  cases i with
  | ofNat n =>
    change (Nat.repr n).toList = _
    rw [Nat.repr_eq_ofList_toDigits, String.toList_ofList]
    rfl
  | negSucc n =>
    change ("-" ++ Nat.repr (n + 1)).toList = _
    rw [Nat.repr_eq_ofList_toDigits, String.toList_append, if_pos (Int.negSucc_lt_zero n)]
    exact congrArg ('-' :: ·) String.toList_ofList

/-- A written integer starts with a minus sign or a digit. -/
theorem exists_numeral (i : Int) :
    ∃ c cs, Json.numeral (.int i) = c :: cs ∧ (c = '-' ∨ c.isDigit = true) := by
  rw [numeral_eq]
  split
  · exact ⟨'-', _, rfl, .inl rfl⟩
  · obtain ⟨d, ds, hds, hd⟩ := exists_toDigits i.natAbs
    exact ⟨d, ds, hds, .inr hd⟩

/-- A written integer is read back as its numeral. -/
theorem numeral_int (i : Int) (h : Ends rest) :
    numeral (Json.numeral (.int i) ++ rest) = some (Numeral.ofInt i, rest) := by
  rw [numeral_eq, Numeral.ofInt]
  split
  · rename_i hnegative
    rw [List.append_assoc, List.singleton_append, numeral, unsigned_toDigits _ _ h,
      decide_eq_true hnegative]
  · rename_i hnonneg
    rw [List.nil_append, numeral.eq_def, decide_eq_false hnonneg]
    split
    · -- A digit stands in front, and not a sign.
      rename_i heq
      obtain ⟨d, ds, hds, hd⟩ := exists_toDigits i.natAbs
      rw [hds, List.cons_append] at heq
      cases heq
      cases hd
    · exact unsigned_toDigits _ _ h

/-- A written integer is ASCII, so the reader sees it as written. -/
theorem seen_numeral (i : Int) : seen (Json.numeral (.int i)) = Json.numeral (.int i) := by
  have hdigits : isAscii (Nat.toDigits 10 i.natAbs) = true := by
    refine List.all_eq_true.2 fun c hc => decide_eq_true ?_
    have hle : c.toNat ≤ '9'.toNat := (Char.isDigit_iff_toNat.1 (isDigit_of_mem_toDigits c hc)).2
    exact Nat.lt_of_le_of_lt hle (by decide)
  apply seen_of_ascii
  rw [numeral_eq, isAscii, List.all_append, Bool.and_eq_true]
  refine ⟨?_, hdigits⟩
  split <;> rfl

end Numerals

end Reader

/-! ## Values -/

mutual

/-- Every number in a value is an integer of at most 64 bits. -/
def Integral : Json → Prop
  | .null | .bool _ | .str _ => True
  | .num (.int i) => Numeral.Fits i
  | .num (.float _) => False
  | .arr items => ItemsIntegral items
  | .obj members => MembersIntegral members

/-- Every number in array items is an integer of at most 64 bits. -/
def ItemsIntegral : List Json → Prop
  | [] => True
  | j :: rest => Integral j ∧ ItemsIntegral rest

/-- Every number in object members is an integer of at most 64 bits. -/
def MembersIntegral : List (String × Json) → Prop
  | [] => True
  | (_, j) :: rest => Integral j ∧ MembersIntegral rest

end

namespace Reader

/-- A character with which a value can start. -/
def leads (c : Char) : Bool :=
  c = '"' || c = '[' || c = '\x7b' || c = '-' || c = 'n' || c = 't' || c = 'f' || c.isDigit

theorem ne_of_leads {c d : Char} (h : leads c = true) (hd : leads d = false) : c ≠ d := by
  rintro rfl
  rw [hd] at h
  cases h

/-- No blank is skipped where a value starts. -/
theorem skip_of_leads {c : Char} (h : leads c = true) (rest : List Char) :
    skip (c :: rest) = c :: rest := by
  have hne : ∀ d, leads d = false → c ≠ d := fun _ => ne_of_leads h
  rw [skip, List.dropWhile_cons_of_neg]
  simp [hne ' ' rfl, hne '\n' rfl, hne '\t' rfl, hne '\r' rfl]

/-- A numeral starts with a sign or a digit. -/
theorem leads_of_numeral {c : Char} (h : c = '-' ∨ c.isDigit = true) : leads c = true := by
  rcases h with rfl | hdigit
  · rfl
  · simp [leads, hdigit]

/-- A text starts with a value: not with a blank, and not with the end of an array. -/
def Led (cs : List Char) : Prop := ∃ c rest, leads c = true ∧ cs = c :: rest

/-- A text stays led by its first character when more follows. -/
theorem Led.append {cs : List Char} (h : Led cs) (rest : List Char) : Led (cs ++ rest) := by
  obtain ⟨c, cs, hc, rfl⟩ := h
  exact ⟨c, cs ++ rest, hc, rfl⟩

/-- A written value starts with a character that may start one. -/
theorem led_chars {j : Json} (h : j.Integral) : Led (seen j.chars) := by
  -- Every kind of value starts with a character of its own.
  cases j with
  | null =>
    rw [chars, seen_of_ascii (by decide)]
    exact ⟨'n', _, rfl, rfl⟩
  | bool b =>
    cases b with
    | true =>
      rw [chars, seen_of_ascii (by decide)]
      exact ⟨'t', _, rfl, rfl⟩
    | false =>
      rw [chars, seen_of_ascii (by decide)]
      exact ⟨'f', _, rfl, rfl⟩
  | num n =>
    cases n with
    | float => cases h
    | int i =>
      obtain ⟨c, cs, hcs, hc⟩ := exists_numeral i
      rw [chars, seen_numeral]
      exact ⟨c, cs, leads_of_numeral hc, hcs⟩
  | str s =>
    rw [chars, seen_quote]
    exact ⟨'"', _, rfl, rfl⟩
  | arr items =>
    rw [chars, seen_cons (by decide)]
    exact ⟨'[', _, rfl, rfl⟩
  | obj members =>
    rw [chars, seen_cons (by decide)]
    exact ⟨'\x7b', _, rfl, rfl⟩

/-- A written value is never empty. -/
theorem length_chars_pos {j : Json} (h : j.Integral) : 0 < j.chars.length := by
  obtain ⟨c, cs, -, hcs⟩ := led_chars h
  rw [List.length_pos_iff]
  intro hnil
  rw [hnil] at hcs
  cases hcs

/-- A value that opens no array and no object is a scalar. -/
theorem value_scalar {c : Char} (fuel : Nat) (rest : List Char) (h : leads c = true)
    (harray : c ≠ '[') (hobject : c ≠ '\x7b') :
    value (fuel + 1) (c :: rest) = scalar (c :: rest) := by
  rw [value, skip_of_leads h]
  split
  · rename_i heq
    exact absurd (List.cons.inj heq).1 harray
  · rename_i heq
    exact absurd (List.cons.inj heq).1 hobject
  · rfl

/-- A written integer is read back as that integer. -/
theorem value_int {i : Int} (hi : Numeral.Fits i) (fuel : Nat) {rest : List Char} (h : Ends rest) :
    value (fuel + 1) (Json.numeral (.int i) ++ rest) = (.number (.int i), some rest) := by
  have hnumeral := numeral_int i h
  obtain ⟨c, cs, hcs, hc⟩ := exists_numeral i
  have hne : ∀ d, d ≠ '-' → d.isDigit = false → c ≠ d := by
    rintro d hsign hdigit rfl
    rcases hc with rfl | hc
    · exact hsign rfl
    · rw [hdigit] at hc
      cases hc
  rw [hcs, List.cons_append] at hnumeral ⊢
  rw [value_scalar fuel _ (leads_of_numeral hc) (hne '[' (by decide) rfl)
    (hne '\x7b' (by decide) rfl), scalar.eq_def]
  -- Neither a word nor a quoted text starts like a numeral.
  split
  · rename_i heq
    exact absurd (List.cons.inj heq).1 (hne 'n' (by decide) rfl)
  · rename_i heq
    exact absurd (List.cons.inj heq).1 (hne 't' (by decide) rfl)
  · rename_i heq
    exact absurd (List.cons.inj heq).1 (hne 'f' (by decide) rfl)
  · rename_i heq
    exact absurd (List.cons.inj heq).1 (hne '"' (by decide) rfl)
  · rw [hnumeral]
    simp only [numberOf, Numeral.value?_ofInt hi, Option.elim_some]

section Step

variable {first closed : Bool} {fuel : Nat} {cs rest : List Char} {tail : Option (List Char)}
  {t : Tree}

/-- An item before a closing bracket is the last of its array. -/
theorem items_last (hled : Led cs) (hvalue : value fuel cs = (t, some (']' :: rest))) :
    items (fuel + 1) first cs = (([t], true), some rest) := by
  obtain ⟨c, cs, hc, rfl⟩ := hled
  rw [items, skip_of_leads hc]
  split
  · rename_i heq
    exact absurd (List.cons.inj heq).1 (ne_of_leads hc rfl)
  · rw [hvalue]
    rfl

/-- An item before a comma is followed by the array's other items. -/
theorem items_more {ts : List Tree} (hled : Led cs)
    (hvalue : value fuel cs = (t, some (',' :: rest)))
    (hmore : items fuel false rest = ((ts, closed), tail)) :
    items (fuel + 1) first cs = ((t :: ts, closed), tail) := by
  have hcomma : skip (',' :: rest) = ',' :: rest := rfl
  obtain ⟨c, cs, hc, rfl⟩ := hled
  rw [items, skip_of_leads hc]
  split
  · rename_i heq
    exact absurd (List.cons.inj heq).1 (ne_of_leads hc rfl)
  · rw [hvalue]
    simp only [hcomma, hmore]

/-- A member before a closing brace is the last of its object. -/
theorem members_last (k : String) (hvalue : value fuel cs = (t, some ('\x7d' :: rest))) :
    members (fuel + 1) first (seen (quote k) ++ ':' :: cs) =
      (([(some k, t)], true), some rest) := by
  have hcolon : skip (':' :: cs) = ':' :: cs := rfl
  have hend : skip ('\x7d' :: rest) = '\x7d' :: rest := rfl
  obtain ⟨es, helements, hjoin⟩ := exists_elements k (':' :: cs)
  rw [seen_quote, List.cons_append, List.append_assoc, List.singleton_append, members,
    skip_of_leads rfl]
  simp only [helements, hcolon, hvalue, hend, nameOf_quote hjoin]

/-- A member before a comma is followed by the object's other members. -/
theorem members_more {ms : List (Option String × Tree)} (k : String)
    (hvalue : value fuel cs = (t, some (',' :: rest)))
    (hmore : members fuel false rest = ((ms, closed), tail)) :
    members (fuel + 1) first (seen (quote k) ++ ':' :: cs) =
      (((some k, t) :: ms, closed), tail) := by
  have hcolon : skip (':' :: cs) = ':' :: cs := rfl
  have hcomma : skip (',' :: rest) = ',' :: rest := rfl
  obtain ⟨es, helements, hjoin⟩ := exists_elements k (':' :: cs)
  rw [seen_quote, List.cons_append, List.append_assoc, List.singleton_append, members,
    skip_of_leads rfl]
  simp only [helements, hcolon, hvalue, hcomma, hmore, nameOf_quote hjoin]

end Step

mutual

/-- A value is read up to its last character. Each item and each member has a character that follows
it, so a step for every character is enough. -/
theorem value_chars : ∀ {j : Json}, j.Integral → ∀ {fuel : Nat} {rest : List Char},
    j.chars.length ≤ fuel → Ends rest →
    value fuel (seen j.chars ++ rest) = (Tree.ofJson j, some rest)
  | _, hj, 0, _, hfuel, _ => absurd (length_chars_pos hj) (by omega)
  | .null, _, fuel + 1, rest, _, _ => by
    rw [chars, seen_of_ascii (by decide)]
    exact value_scalar fuel _ (c := 'n') rfl (by decide) (by decide)
  | .bool true, _, fuel + 1, rest, _, _ => by
    rw [chars, seen_of_ascii (by decide)]
    exact value_scalar fuel _ (c := 't') rfl (by decide) (by decide)
  | .bool false, _, fuel + 1, rest, _, _ => by
    rw [chars, seen_of_ascii (by decide)]
    exact value_scalar fuel _ (c := 'f') rfl (by decide) (by decide)
  | .num (.int i), hj, fuel + 1, rest, _, hends => by
    rw [chars, seen_numeral, value_int hj fuel hends, Tree.ofJson]
  | .str s, _, fuel + 1, rest, _, _ => by
    have hscalar := scalar_quote s rest
    rw [chars, Tree.ofJson]
    rw [seen_quote, List.cons_append] at hscalar ⊢
    rw [value_scalar fuel _ rfl (by decide) (by decide), hscalar]
  | .arr js, hj, fuel + 1, rest, hfuel, _ => by
    -- One unit of fuel is for the brackets, and the rest is enough for what is inside.
    rw [chars, List.length_cons, List.length_append, List.length_singleton] at hfuel
    have hend : seen [']'] = [']'] := seen_of_ascii (by decide)
    have hitems : items fuel true (seen (itemChars js) ++ ']' :: rest) =
        ((Tree.ofItems js, true), some rest) := items_chars hj (.inr rfl) (by omega)
    rw [chars, seen_cons (by decide), seen_append, hend, List.cons_append, List.append_assoc,
      List.singleton_append, value, skip_of_leads rfl]
    simp only [hitems, Tree.ofJson]
  | .obj ms, hj, fuel + 1, rest, hfuel, _ => by
    rw [chars, List.length_cons, List.length_append, List.length_singleton] at hfuel
    have hend : seen ['\x7d'] = ['\x7d'] := seen_of_ascii (by decide)
    have hmembers : members fuel true (seen (memberChars ms) ++ '\x7d' :: rest) =
        ((Tree.ofMembers ms, true), some rest) := members_chars hj (.inr rfl) (by omega)
    rw [chars, seen_cons (by decide), seen_append, hend, List.cons_append, List.append_assoc,
      List.singleton_append, value, skip_of_leads rfl]
    simp only [hmembers, Tree.ofJson]

/-- The written items of an array are read back up to its closing bracket. -/
theorem items_chars : ∀ {js : List Json}, ItemsIntegral js →
    ∀ {first : Bool} {fuel : Nat} {rest : List Char}, js ≠ [] ∨ first = true →
    (itemChars js).length + 1 ≤ fuel →
    items fuel first (seen (itemChars js) ++ ']' :: rest) = ((Tree.ofItems js, true), some rest)
  | [], _, first, fuel + 1, rest, hfirst, _ => by
    -- After a comma the reader does not take the end of the array.
    obtain rfl : first = true := hfirst.resolve_left (absurd rfl)
    rfl
  | [j], hj, first, fuel + 1, rest, _, hfuel => by
    rw [itemChars] at hfuel ⊢
    exact items_last ((led_chars hj.1).append _)
      (value_chars hj.1 (by omega) (ends_cons (by decide) _))
  | j :: j' :: js, hj, first, fuel + 1, rest, _, hfuel => by
    have hpos := length_chars_pos hj.1
    have hchars : itemChars (j :: j' :: js) = j.chars ++ ',' :: itemChars (j' :: js) := rfl
    rw [hchars, List.length_append, List.length_cons] at hfuel
    rw [hchars, seen_append, seen_cons (by decide), List.append_assoc, List.cons_append]
    exact items_more ((led_chars hj.1).append _)
      (value_chars hj.1 (by omega) (ends_cons (by decide) _))
      (items_chars hj.2 (.inl (List.cons_ne_nil _ _)) (by omega))

/-- The written members of an object are read back up to its closing brace. -/
theorem members_chars : ∀ {ms : List (String × Json)}, MembersIntegral ms →
    ∀ {first : Bool} {fuel : Nat} {rest : List Char}, ms ≠ [] ∨ first = true →
    (memberChars ms).length + 1 ≤ fuel →
    members fuel first (seen (memberChars ms) ++ '\x7d' :: rest) =
      ((Tree.ofMembers ms, true), some rest)
  | [], _, first, fuel + 1, rest, hfirst, _ => by
    obtain rfl : first = true := hfirst.resolve_left (absurd rfl)
    rfl
  | [(k, j)], hj, first, fuel + 1, rest, _, hfuel => by
    rw [memberChars, List.length_append, List.length_cons] at hfuel
    rw [memberChars, seen_append, seen_cons (by decide), List.append_assoc, List.cons_append]
    exact members_last k (value_chars hj.1 (by omega) (ends_cons (by decide) _))
  | (k, j) :: m :: ms, hj, first, fuel + 1, rest, _, hfuel => by
    -- The value is read up to the comma, and the other members after it.
    have hchars : memberChars ((k, j) :: m :: ms) =
        quote k ++ ':' :: (j.chars ++ ',' :: memberChars (m :: ms)) := rfl
    rw [hchars, List.length_append, List.length_cons, List.length_append,
      List.length_cons] at hfuel
    rw [hchars, seen_append, seen_cons (by decide), seen_append, seen_cons (by decide),
      List.append_assoc, List.cons_append, List.append_assoc, List.cons_append]
    exact members_more k (value_chars hj.1 (by omega) (ends_cons (by decide) _))
      (members_chars hj.2 (.inl (List.cons_ne_nil _ _)) (by omega))

end

/-- A written value is read back as its own tree, with nothing left over. -/
theorem read_chars {j : Json} (h : j.Integral) :
    read (Utf8.encode j.chars) = (Tree.ofJson j, some []) := by
  have hlength : ∀ cs : List Char, cs.length ≤ (Utf8.encode cs).length := by
    intro cs
    induction cs with
    | nil => exact Nat.le_refl 0
    | cons c cs ih =>
      have hc := c.utf8Size_pos
      rw [Utf8.encode, List.flatMap_cons, List.length_append, String.length_utf8EncodeChar,
        List.length_cons]
      rw [Utf8.encode] at ih
      omega
  -- The reader is given steps by the byte, and there are no fewer bytes than characters.
  have hsteps : j.chars.length ≤ steps (Utf8.encode j.chars).length := by
    have hchars := hlength j.chars
    rw [steps]
    omega
  have hvalue := value_chars h hsteps ends_nil
  rw [List.append_nil] at hvalue
  exact hvalue

end Reader

/-- Decoding the written form of a value is decoding the value. -/
theorem decodeBytes_chars {α : Type} (d : Decoder α) {j : Json} (h : j.Integral) :
    decodeBytes d (Utf8.encode j.chars) = d .streaming (Tree.ofJson j) := by
  rw [decodeBytes, Reader.read_chars h]
  dsimp only
  cases d .streaming (Tree.ofJson j) <;> rfl

end Json

end Geofencing
