import Geofencing.Instant.Text
import Geofencing.Proofs.Calendar
import Geofencing.Proofs.Rereading

/-!
# Timestamps and back

The timestamp of an instant is read as the instant again, to the nanosecond, in every year within
reach, and also in a leap second. Each part of it has a width of its own or ends at a character that
is no digit, so each reader stops where the next part begins: `Instant.fields?_written`.

A timestamp cannot show all that two numbers can hold: it has no place for a leap second other than
the last second of a minute. What it can show are the `Instant.Regular` instants. Only these are
ever read (`Instant.regular_of_parse?`), and each of them is read from its own timestamp
(`Instant.parse?_toText_iff`).
-/

namespace Geofencing

open Json.Reader (digits digit?)

/-! ## Digits -/

theorem Json.Reader.digits_lt (cs : List Char) : ∀ d ∈ (digits cs).1, d < 10 := by
  induction cs with
  | nil => exact fun _ h => absurd h List.not_mem_nil
  | cons c cs ih =>
    have hdigit : ∀ d, digit? c = some d → d < 10 := by
      intro d hd
      rw [digit?] at hd
      split at hd
      · rename_i hc
        have hle : c.toNat ≤ 57 := hc.2
        obtain rfl := Option.some_inj.1 hd
        change c.toNat - 48 < 10
        omega
      · cases hd
    rw [digits]
    split
    · rename_i d hd
      simpa using ⟨hdigit d hd, ih⟩
    · exact fun _ h => absurd h List.not_mem_nil

/-- A number is bounded by its number of digits. -/
theorem Numeral.spelled_lt (acc : Nat) {ds : List Nat} (h : ∀ d ∈ ds, d < 10) :
    spelled acc ds < (acc + 1) * 10 ^ ds.length := by
  induction ds generalizing acc with
  | nil => simp
  | cons d ds ih =>
    obtain ⟨hd, hds⟩ := List.forall_mem_cons.1 h
    calc spelled (acc * 10 + d) ds
      _ < (acc * 10 + d + 1) * 10 ^ ds.length := ih _ hds
      _ ≤ (acc + 1) * 10 * 10 ^ ds.length := Nat.mul_le_mul_right _ (by omega)
      _ = (acc + 1) * 10 ^ (d :: ds).length := by
        rw [List.length_cons, Nat.pow_succ', Nat.mul_assoc]

namespace Instant

/-- The numbers that digits stand for. -/
abbrev values (cs : List Char) : List Nat := cs.map fun c => c.toNat - '0'.toNat

section Padded

variable {width n : Nat} {rest : List Char}

/-- A padded number is written in digits only. -/
theorem isDigit_of_mem_padded : ∀ c ∈ padded width n, c.isDigit = true := by
  intro c hc
  rcases List.mem_append.1 hc with hzero | hdigit
  · rw [List.eq_of_mem_replicate hzero]
    rfl
  · exact Json.Reader.isDigit_of_mem_toDigits c hdigit

/-- A padded number has a digit. -/
theorem exists_padded (width n : Nat) :
    ∃ d ds, padded width n = d :: ds ∧ d.isDigit = true := by
  have hne : padded width n ≠ [] := by simp [padded, Nat.toDigits_ne_nil]
  obtain ⟨d, ds, hds⟩ := List.exists_cons_of_ne_nil hne
  exact ⟨d, ds, hds, isDigit_of_mem_padded d (hds ▸ List.mem_cons_self)⟩

/-- A number that fits is written with exactly as many digits as it is given. -/
theorem length_values_padded (hn : n < 10 ^ width) (hwidth : 0 < width) :
    (values (padded width n)).length = width := by
  have hlength : (Nat.toDigits 10 n).length ≤ width :=
    (Nat.length_toDigits_le_iff (by decide) hwidth).2 hn
  rw [values, List.length_map, padded, List.length_append, List.length_replicate]
  omega

theorem isEmpty_values_padded (width n : Nat) : (values (padded width n)).isEmpty = false := by
  obtain ⟨d, ds, hds, -⟩ := exists_padded width n
  rw [hds]
  rfl

/-- Zeros in front of a number do not count. -/
theorem spell_padded (width n : Nat) : spell (values (padded width n)) = n := by
  have hzeros : ∀ k ds, spell (List.replicate k 0 ++ ds) = spell ds := by
    intro k ds
    induction k with
    | zero => rfl
    | succ k ih => exact ih
  rw [values, padded, List.map_append, List.map_replicate]
  exact (hzeros _ _).trans (Numeral.spelled_decimals n)

/-- A digit is no blank. -/
theorem trimFront_padded (width n : Nat) (rest : List Char) :
    Text.trimFront (padded width n ++ rest) = padded width n ++ rest := by
  obtain ⟨d, ds, hds, hd⟩ := exists_padded width n
  have hrange : 48 ≤ d.toNat ∧ d.toNat ≤ 57 := Char.isDigit_iff_toNat.1 hd
  rw [hds, List.cons_append, Text.trimFront, List.dropWhile_cons_of_neg]
  simp [Text.isBlank]
  omega

/-- All digits of a padded number are read, if no others follow. -/
theorem digits_padded (hrest : digits rest = ([], rest)) :
    digits (padded width n ++ rest) = (values (padded width n), rest) := by
  rw [Json.Reader.digits_append_eq isDigit_of_mem_padded, hrest, List.append_nil]

end Padded

/-! ## The parts of a timestamp -/

/-- A number of a fixed width is read whatever follows it. -/
theorem number?_padded {width n : Nat} (hn : n < 10 ^ width) (hwidth : 0 < width)
    (rest : List Char) : number? width (padded width n ++ rest) = some (n, rest) := by
  have hlength : (values (padded width n)).length = width := length_values_padded hn hwidth
  have hdrop : (padded width n ++ rest).drop (values (padded width n)).length = rest :=
    List.drop_left' (List.length_map _).symm
  rw [number?, trimFront_padded, Json.Reader.digits_append_eq isDigit_of_mem_padded]
  simp only [List.take_left' hlength, isEmpty_values_padded, Bool.false_eq_true, if_false,
    spell_padded, hdrop]

/-- A mark is read where it stands. -/
theorem mark?_cons {c : Char} (h : Text.isBlank c = false) (rest : List Char) :
    mark? c (c :: rest) = some rest := by
  rw [mark?, Text.trimFront, List.dropWhile_cons_of_neg (by simp [h])]
  exact if_pos rfl

/-- A year with a sign ends at the hyphen after it, and one without has four digits. -/
theorem year?_yearChars (year : Int) (rest : List Char) :
    year? (yearChars year ++ '-' :: rest) = some (year, '-' :: rest) := by
  have hlong : digits (padded 4 year.natAbs ++ '-' :: rest) =
      (values (padded 4 year.natAbs), '-' :: rest) := digits_padded rfl
  have hsign : ∀ c, Text.isBlank c = false → ∀ cs, Text.trimFront (c :: cs) = c :: cs :=
    fun c hc cs => List.dropWhile_cons_of_neg (by simp [hc])
  rw [yearChars]
  split
  · -- Before the year 0.
    simp only [year?, List.cons_append, hsign '-' rfl, hlong, isEmpty_values_padded,
      Bool.false_eq_true, if_false, spell_padded, Option.map_some, Option.some.injEq,
      Prod.mk.injEq, and_true]
    omega
  · split
    · -- After the year 9999.
      simp only [year?, List.cons_append, hsign '+' rfl, hlong, isEmpty_values_padded,
        Bool.false_eq_true, if_false, spell_padded, Option.map_some, Option.some.injEq,
        Prod.mk.injEq, and_true]
      omega
    · -- The years in between are written with four digits and no sign.
      have hnumber : number? 4 (padded 4 year.natAbs ++ '-' :: rest) =
          some (year.natAbs, '-' :: rest) := number?_padded (by omega) (by decide) _
      obtain ⟨d, ds, hds, hd⟩ := exists_padded 4 year.natAbs
      rw [year?, trimFront_padded]
      dsimp only
      split
      · -- A digit stands in front, and not a sign.
        rename_i heq
        rw [hds] at heq
        cases heq
        cases hd
      · rename_i heq
        rw [hds] at heq
        cases heq
        cases hd
      · rw [hnumber, Option.map_some, Option.some.injEq, Prod.mk.injEq]
        exact ⟨by omega, rfl⟩

/-- A fraction is read to the nanosecond, however many groups of digits it is written with. -/
theorem fraction?_fractionChars {nanos : Nat} (h : nanos < 1000000000) :
    fraction? (fractionChars nanos ++ ['Z']) = some (nanos, ['Z']) := by
  have hgroups : ∀ {width n : Nat}, n < 10 ^ width → 0 < width → width ≤ 9 →
      n * tenTo (9 - width) = nanos →
      fraction? ('.' :: (padded width n ++ ['Z'])) = some (nanos, ['Z']) := by
    intro width n hn hwidth hle hnanos
    have hlength : (values (padded width n)).length = width := length_values_padded hn hwidth
    have htake : (values (padded width n)).take 9 = values (padded width n) :=
      List.take_of_length_le (hlength.trans_le hle)
    rw [fraction?, digits_padded rfl]
    simp only [isEmpty_values_padded, Bool.false_eq_true, if_false, htake, spell_padded, hlength,
      hnanos]
  have hthree : tenTo (9 - 3) = 1000000 := rfl
  have hsix : tenTo (9 - 6) = 1000 := rfl
  rw [fractionChars]
  split
  · rename_i hzero
    subst hzero
    rfl
  · split
    · exact hgroups (by omega) (by decide) (by decide) (by rw [hthree]; omega)
    · split
      · exact hgroups (by omega) (by decide) (by decide) (by rw [hsix]; omega)
      · exact hgroups (by omega) (by decide) (by decide) (Nat.mul_one _)

/-- The fields of a timestamp are read as they were written. -/
theorem fields?_written (year : Int) {month day hour minute second nanos : Nat}
    (hmonth : month < 100) (hday : day < 100) (hhour : hour < 100) (hminute : minute < 100)
    (hsecond : second < 100) (hnanos : nanos < 1000000000) :
    fields? (yearChars year ++ '-' :: (padded 2 month ++ '-' :: (padded 2 day ++ 'T' ::
      (padded 2 hour ++ ':' :: (padded 2 minute ++ ':' :: (padded 2 second ++
        (fractionChars nanos ++ ['Z']))))))) =
      some ⟨⟨year, month, day⟩, hour, minute, second, nanos, 0⟩ := by
  have hnumber : ∀ {n}, n < 100 → ∀ rest, number? 2 (padded 2 n ++ rest) = some (n, rest) :=
    fun h => number?_padded h (by decide)
  have hhyphen : ∀ rest, mark? '-' ('-' :: rest) = some rest := mark?_cons rfl
  have hcolon : ∀ rest, mark? ':' (':' :: rest) = some rest := mark?_cons rfl
  have hoffset : offset? ['Z'] = some (0, []) := rfl
  -- Each reader leaves the text that the next one is given.
  refine Option.bind_eq_some_iff.2 ⟨_, year?_yearChars year _, ?_⟩
  refine Option.bind_eq_some_iff.2 ⟨_, hhyphen _, ?_⟩
  refine Option.bind_eq_some_iff.2 ⟨_, hnumber hmonth _, ?_⟩
  refine Option.bind_eq_some_iff.2 ⟨_, hhyphen _, ?_⟩
  refine Option.bind_eq_some_iff.2 ⟨_, hnumber hday _, ?_⟩
  refine Option.bind_eq_some_iff.2 ⟨_, rfl, ?_⟩
  refine Option.bind_eq_some_iff.2 ⟨_, hnumber hhour _, ?_⟩
  refine Option.bind_eq_some_iff.2 ⟨_, hcolon _, ?_⟩
  refine Option.bind_eq_some_iff.2 ⟨_, hnumber hminute _, ?_⟩
  refine Option.bind_eq_some_iff.2 ⟨_, hcolon _, ?_⟩
  refine Option.bind_eq_some_iff.2 ⟨_, hnumber hsecond _, ?_⟩
  refine Option.bind_eq_some_iff.2 ⟨_, fraction?_fractionChars hnanos, ?_⟩
  exact Option.bind_eq_some_iff.2 ⟨_, hoffset, rfl⟩

/-! ## Instants that a timestamp can show -/

/-- An instant lies within reach, and a leap second is the last second of a minute. -/
structure Regular (t : Instant) : Prop where
  reach : inRange t.seconds = true
  leap : t.nanos < 1000000000 ∨ t.nanos < 2000000000 ∧ t.seconds % 60 = 59

instance (t : Instant) : Decidable t.Regular :=
  decidable_of_iff (inRange t.seconds = true ∧
      (t.nanos < 1000000000 ∨ t.nanos < 2000000000 ∧ t.seconds % 60 = 59))
    ⟨fun ⟨hreach, hleap⟩ => ⟨hreach, hleap⟩, fun ⟨hreach, hleap⟩ => ⟨hreach, hleap⟩⟩

variable {t : Instant}

/-- The fields that are written for an instant. -/
def fields (t : Instant) : Fields :=
  let s := t.secondOfDay
  let leap := if t.nanos < 1000000000 then 0 else 1
  ⟨t.date, s / 3600, s / 60 % 60, s % 60 + leap, t.nanos - leap * 1000000000, 0⟩

/-- The fields of a regular instant are read from what is written for it. -/
theorem fields?_chars (h : t.Regular) : fields? t.chars = some t.fields := by
  have hdate : t.date.month ≤ 12 ∧ t.date.day ≤ 31 := Date.bounds_of_exists (Date.exists_ofDays _)
  have hday : t.secondOfDay < 86400 := by
    rw [secondOfDay]
    omega
  have hsecond : t.secondOfDay % 60 + (if t.nanos < 1000000000 then 0 else 1) < 100 := by
    split <;> omega
  have hnanos : t.nanos - (if t.nanos < 1000000000 then 0 else 1) * 1000000000 < 1000000000 := by
    have hleap := h.leap
    split <;> omega
  exact fields?_written t.date.year (by omega) (by omega) (by omega) (by omega) hsecond hnanos

/-- The fields that are written for an instant describe it. -/
theorem instant?_fields (h : t.Regular) : t.fields.instant? = some t := by
  obtain ⟨hreach, hleap⟩ := h
  have hdate : t.date.exists? = true := Date.exists_ofDays _
  have hday : (t.secondOfDay : Int) = t.seconds % 86400 := by
    rw [secondOfDay]
    omega
  -- A second that is written as 60 counts as the one before it, which is the instant's own.
  have hwall : t.date.toDays * 86400 + ((t.secondOfDay / 3600 * 3600 +
      t.secondOfDay / 60 % 60 * 60 +
        min (t.secondOfDay % 60 + if t.nanos < 1000000000 then 0 else 1) 59 : Nat) : Int) =
      t.seconds := by
    rw [date, Date.toDays_ofDays]
    split <;> omega
  have hnanos : t.nanos - (if t.nanos < 1000000000 then 0 else 1) * 1000000000 +
      (if t.secondOfDay % 60 + (if t.nanos < 1000000000 then 0 else 1) = 60 then 1000000000
        else 0) = t.nanos := by
    clear hwall
    split <;> split <;> omega
  have hclock : t.secondOfDay / 3600 < 24 ∧ t.secondOfDay / 60 % 60 < 60 ∧
      t.secondOfDay % 60 + (if t.nanos < 1000000000 then 0 else 1) ≤ 60 := by
    clear hwall hnanos
    split <;> omega
  rw [Fields.instant?, fields]
  dsimp only
  rw [hwall, Int.sub_zero, hdate, hreach, hnanos, if_pos]
  simpa [and_assoc] using hclock

/-- A fraction of a second is less than a second. -/
theorem fraction?_lt {cs tail : List Char} {nanos : Nat} (h : fraction? cs = some (nanos, tail)) :
    nanos < 1000000000 := by
  rw [fraction?.eq_def] at h
  split at h
  · rename_i rest
    dsimp only at h
    split at h
    · cases h
    · rw [Option.some_inj, Prod.mk.injEq] at h
      obtain ⟨rfl, -⟩ := h
      generalize hds : (digits rest).1.take 9 = ds
      -- At most nine digits count, and they are filled up to nine.
      have hlength : ds.length ≤ 9 := by
        rw [← hds]
        exact List.length_take_le _ _
      have hspell : spell ds < (0 + 1) * 10 ^ ds.length :=
        Numeral.spelled_lt 0 fun d hd =>
          Json.Reader.digits_lt rest d (List.mem_of_mem_take (hds ▸ hd))
      rw [Nat.zero_add, Nat.one_mul] at hspell
      calc spell ds * 10 ^ (9 - ds.length)
        _ < 10 ^ ds.length * 10 ^ (9 - ds.length) :=
          Nat.mul_lt_mul_of_pos_right hspell (Nat.pow_pos (by decide))
        _ = 10 ^ 9 := by rw [← Nat.pow_add, Nat.add_sub_cancel' hlength]
  · cases h
    decide

/-- An offset is a number of whole minutes. -/
theorem offset?_mod {cs tail : List Char} {offset : Int} (h : offset? cs = some (offset, tail)) :
    offset % 60 = 0 := by
  -- Hours and minutes are all that an offset is made of, on either side of Greenwich.
  have hminutes : ∀ {cs tail : List Char} {n : Nat}, hoursMinutes? cs = some (n, tail) →
      n % 60 = 0 := by
    intro cs tail n h
    simp only [hoursMinutes?, Option.bind_eq_bind, Option.bind_eq_some_iff, Prod.exists] at h
    obtain ⟨hours, _, -, minutes, _, -, h⟩ := h
    split at h
    · cases h
      omega
    · cases h
  have heast : ∀ {cs : List Char}, ((hoursMinutes? cs).map fun read => ((read.1 : Int), read.2)) =
      some (offset, tail) → offset % 60 = 0 := by
    intro cs h
    simp only [Option.map_eq_some_iff, Prod.exists, Prod.mk.injEq] at h
    obtain ⟨n, _, hn, rfl, -⟩ := h
    have := hminutes hn
    omega
  have hwest : ∀ {cs : List Char}, ((hoursMinutes? cs).map fun read => (-(read.1 : Int), read.2)) =
      some (offset, tail) → offset % 60 = 0 := by
    intro cs h
    simp only [Option.map_eq_some_iff, Prod.exists, Prod.mk.injEq] at h
    obtain ⟨n, _, hn, rfl, -⟩ := h
    have := hminutes hn
    omega
  rw [offset?] at h
  split at h
  · cases h
    rfl
  · split at h
    · cases h
      rfl
    · cases h
      rfl
    · exact heast h
    · exact hwest h
    · exact hwest h
    · cases h

/-- What is read has less than a second of nanoseconds, and its offset counts whole minutes. -/
theorem bounds_of_fields? {cs : List Char} {f : Fields} (h : fields? cs = some f) :
    f.nanos < 1000000000 ∧ f.offset % 60 = 0 := by
  -- Year, month and day, with the hyphens between them.
  obtain ⟨⟨year, _⟩, -, h⟩ := Option.bind_eq_some_iff.1 h
  obtain ⟨_, -, h⟩ := Option.bind_eq_some_iff.1 h
  obtain ⟨⟨month, _⟩, -, h⟩ := Option.bind_eq_some_iff.1 h
  obtain ⟨_, -, h⟩ := Option.bind_eq_some_iff.1 h
  obtain ⟨⟨day, rest⟩, -, h⟩ := Option.bind_eq_some_iff.1 h
  dsimp only at h
  split at h
  case h_4 => cases h
  -- Whichever of three characters stands before the time of the day, what follows is the same.
  all_goals
    obtain ⟨_, -, h⟩ := Option.bind_eq_some_iff.1 h
    obtain ⟨⟨hour, _⟩, -, h⟩ := Option.bind_eq_some_iff.1 h
    obtain ⟨_, -, h⟩ := Option.bind_eq_some_iff.1 h
    obtain ⟨⟨minute, _⟩, -, h⟩ := Option.bind_eq_some_iff.1 h
    obtain ⟨_, -, h⟩ := Option.bind_eq_some_iff.1 h
    obtain ⟨⟨second, _⟩, -, h⟩ := Option.bind_eq_some_iff.1 h
    obtain ⟨⟨nanos, _⟩, hnanos, h⟩ := Option.bind_eq_some_iff.1 h
    obtain ⟨⟨offset, _⟩, hoffset, h⟩ := Option.bind_eq_some_iff.1 h
    dsimp only at h
    split at h
    · cases h
      exact ⟨fraction?_lt hnanos, offset?_mod hoffset⟩
    · cases h

/-- Whatever timestamp is read, it shows a regular instant. -/
theorem regular_of_parse? {s : String} (h : parse? s = some t) : t.Regular := by
  obtain ⟨f, hfields, hinstant⟩ := Option.bind_eq_some_iff.1 h
  obtain ⟨hnanos, hoffset⟩ := bounds_of_fields? hfields
  rw [Fields.instant?] at hinstant
  split at hinstant
  · rename_i hin
    obtain rfl := Option.some_inj.1 hinstant
    simp only [Bool.and_eq_true] at hin
    refine ⟨hin.2, ?_⟩
    dsimp only
    split
    · -- The second before a leap second is the last of a minute, in every time zone.
      rename_i hleap
      rw [hleap]
      exact .inr ⟨by omega, by omega⟩
    · exact .inl (by omega)
  · cases hinstant

/-- The instants that are read from their own timestamps are the regular ones. -/
theorem parse?_toText_iff : parse? t.toText = some t ↔ t.Regular := by
  refine ⟨regular_of_parse?, fun h => ?_⟩
  rw [parse?, toText, String.toList_ofList, fields?_chars h, Option.bind_some, instant?_fields h]

/-- The last leap second within reach, and the first instant. -/
example : parse? "+262142-12-31T23:59:60.5Z" = some ⟨maxSeconds, 1500000000⟩ ∧
    toText ⟨minSeconds, 1⟩ = "-262143-01-01T00:00:00.000000001Z" := by
  decide +kernel

end Instant

end Geofencing
