import Geofencing.Event
import Geofencing.Geofence.Basic

/-!
# What responses show

The members of an object can be read off the list that it is made of (`Json.get?_object`), and
identifiers off their written form (`Uuid.parse?_toText`). So a response shows which geofence or
which actor it is about.
-/

namespace Geofencing

/-! ## Members of objects -/

namespace Json

variable {name k : String} {value : Json}

/-- Inserting a member changes no other lookup and answers its own. -/
theorem lookup_insertMember (members : List (String × Json)) :
    (insertMember name value members).lookup k = ((name, value) :: members).lookup k := by
  induction members with
  | nil => rfl
  | cons m rest ih =>
    obtain ⟨k', v⟩ := m
    unfold insertMember
    split
    · rename_i hname
      subst hname
      -- The old member has the same name, so it is hidden either way.
      simp only [List.lookup_cons]
      cases k == name <;> rfl
    · split
      · rfl
      · rename_i hname _
        simp only [List.lookup_cons, ih]
        by_cases hk : k = name
        · rw [hk, beq_self_eq_true, beq_eq_false_iff_ne.2 hname]
        · rw [beq_eq_false_iff_ne.2 hk]

/-- Of equal names the last one counts. -/
theorem get?_object (members : List (String × Json)) :
    (object members).get? k = members.reverse.lookup k := by
  have hfold : ∀ acc, (members.foldl (fun acc m => insertMember m.1 m.2 acc) acc).lookup k =
      (members.reverse ++ acc).lookup k := by
    induction members with
    | nil => exact fun _ => rfl
    | cons m rest ih =>
      intro acc
      rw [List.foldl_cons, ih, List.reverse_cons, List.append_assoc, List.lookup_append,
        lookup_insertMember, List.lookup_append]
      rfl
  rw [object, get?, orderMembers, hfold, List.append_nil]

end Json

/-! ## Identifiers -/

namespace Hex

theorem length_digits (count n : Nat) : (digits count n).length = count := by
  induction count generalizing n with
  | zero => rfl
  | succ count ih => simp [digits, ih]

/-- Digits are read from left to right, each part from what the one before it gave. -/
theorem readFrom_append (acc : Nat) (front rest : List Char) :
    readFrom acc (front ++ rest) = (readFrom acc front).bind (readFrom · rest) := by
  induction front generalizing acc with
  | nil => rfl
  | cons c front ih =>
    rw [List.cons_append, readFrom, readFrom]
    cases digit? c with
    | none => rfl
    | some d => exact ih _

/-- Reading what was written gives the lowest digits back. -/
theorem readFrom_digits (acc count n : Nat) :
    readFrom acc (digits count n) =
      some (acc * twoTo (4 * count) + n % twoTo (4 * count)) := by
  induction count generalizing n with
  | zero => simp [digits, readFrom, Nat.mod_one]
  | succ count ih =>
    rw [digits, readFrom_append, ih, Option.bind_some, readFrom,
      digit?_digitChar _ (Nat.mod_lt n (by decide))]
    simp only [readFrom, Option.some.injEq]
    have hpow : twoTo (4 * (count + 1)) = 16 * twoTo (4 * count) := by
      change twoTo (4 * count) * 2 * 2 * 2 * 2 = _
      omega
    rw [hpow, Nat.mod_mul, Nat.mul_left_comm]
    omega

end Hex

namespace Uuid

/-- Five groups of digits are put together without the hyphens. -/
theorem ofHyphenated?_groups {a b c d e : List Char} (ha : a.length = 8) (hb : b.length = 4)
    (hc : c.length = 4) (hd : d.length = 4) (he : e.length = 12) :
    ofHyphenated? (a ++ '-' :: (b ++ '-' :: (c ++ '-' :: (d ++ '-' :: e)))) =
      ofSimple? (a ++ (b ++ (c ++ (d ++ e)))) := by
  rw [ofHyphenated?, if_pos]
  · simp [List.drop_append, List.drop_eq_nil_of_le, ha, hb, hc, hd]
  · simp [ha, hb, hc, hd, he]

/-- An identifier is recovered from its number. -/
theorem ofNat_value (u : Uuid) : ofNat u.value = u := by
  obtain ⟨value, hvalue⟩ := u
  simp only [ofNat, Nat.mod_eq_of_lt hvalue]

/-- An identifier's text is read back as the identifier. -/
theorem ofChars?_chars (u : Uuid) : ofChars? u.chars = some u := by
  have hgroups : ∀ cs : List Char, cs.take 8 ++ ((cs.drop 8).take 4 ++
      ((cs.drop 12).take 4 ++ ((cs.drop 16).take 4 ++ cs.drop 20))) = cs := by
    intro cs
    have hdrop : ∀ n, (cs.drop n).take 4 ++ cs.drop (n + 4) = cs.drop n := by
      intro n
      rw [← List.drop_drop, List.take_append_drop]
    rw [hdrop 16, hdrop 12, hdrop 8, List.take_append_drop]
  have hread : Hex.read (Hex.digits 32 u.value) = some u.value := by
    rw [Hex.read, Hex.readFrom_digits, Nat.zero_mul, Nat.zero_add, Nat.mod_eq_of_lt u.value_lt]
  have hds := Hex.length_digits 32 u.value
  unfold chars
  generalize Hex.digits 32 u.value = ds at hread hds ⊢
  dsimp only
  -- The text has the length of the hyphenated form, and the groups are those of the digits.
  rw [ofChars?, if_neg (by simp [hds]), if_pos (by simp [hds]),
    ofHyphenated?_groups (by simp [hds]) (by simp [hds]) (by simp [hds]) (by simp [hds])
      (by simp [hds]),
    hgroups, ofSimple?, if_pos hds, hread, Option.map_some, ofNat_value]

/-- Reading the written form of an identifier gives the identifier. -/
theorem parse?_toText (u : Uuid) : parse? u.toText = some u := by
  rw [parse?, toText, String.toList_ofList, ofChars?_chars]

/-- Different identifiers are written differently. -/
theorem toJson_injective {u v : Uuid} (h : u.toJson = v.toJson) : u = v := by
  have hread := congrArg parse? (Json.str.inj h)
  rw [parse?_toText, parse?_toText] at hread
  exact Option.some_inj.1 hread

end Uuid

/-! ## Responses -/

/-- A geofence's response carries its identifier. -/
theorem Geofence.get?_id_response (g : Geofence) : g.response.get? "id" = some g.id.toJson := by
  unfold response
  rw [Json.get?_object]
  cases g.metadata <;> simp [List.lookup_cons]

/-- A geofence's response says whether it is active. -/
theorem Geofence.get?_active_response (g : Geofence) :
    g.response.get? "active" = some (.bool g.active) := by
  unfold response
  rw [Json.get?_object]
  cases g.metadata <;> simp [List.lookup_cons]

/-- An event's response carries its actor. -/
theorem Event.get?_actorId_response (e : Event) :
    e.response.get? "actorId" = some e.actor.toJson := by
  unfold response
  rw [Json.get?_object]
  cases e.geofenceName <;> simp [List.lookup_cons]

end Geofencing
