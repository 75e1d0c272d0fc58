import Geofencing.Proofs.Members

/-!
# Records in JSON

A record is written as an object of its fields. It is decoded field by field from the members of the
object, in whichever order they stand: `Json.Decoder.record_of_enter`. That settles how a record is
decoded from its own written form once it is known how each of its fields is.
-/

namespace Geofencing

/-- If two steps succeed, so did the first one. -/
theorem exists_of_bind_eq_ok {ε α β : Type} {x : Except ε α} {f : α → Except ε β} {b : β}
    (h : x >>= f = .ok b) : ∃ a, x = .ok a ∧ f a = .ok b := by
  cases x with
  | error e => cases h
  | ok a => exact ⟨a, rfl, h⟩

namespace Json

/-! ## Trees of values -/

mutual

/-- The tree of a value has no faults. -/
theorem wellFormed_ofJson : ∀ j : Json, (Tree.ofJson j).wellFormed = true
  | .null | .bool _ | .num _ | .str _ => rfl
  | .arr items => by
    rw [Tree.ofJson, Tree.wellFormed, wellFormed_ofItems items, Bool.and_self]
  | .obj members => by
    rw [Tree.ofJson, Tree.wellFormed, wellFormed_ofMembers members, Bool.and_self]

/-- Items that were written are well-formed. -/
theorem wellFormed_ofItems : ∀ items : List Json,
    Tree.itemsWellFormed (Tree.ofItems items) = true
  | [] => rfl
  | j :: rest => by
    rw [Tree.ofItems, Tree.itemsWellFormed, wellFormed_ofJson j, wellFormed_ofItems rest,
      Bool.and_self]

theorem wellFormed_ofMembers : ∀ members : List (String × Json),
    Tree.membersWellFormed (Tree.ofMembers members) = true
  | [] => rfl
  | (_, j) :: rest => by
    rw [Tree.ofMembers, Tree.membersWellFormed, wellFormed_ofJson j, wellFormed_ofMembers rest,
      Bool.and_self]

end

/-- A member is found in what was written as in what is written. -/
theorem lookup_ofMembers (members : List (String × Json)) (name : String) :
    (Tree.ofMembers members).lookup (some name) = (members.lookup name).map Tree.ofJson := by
  induction members with
  | nil => rfl
  | cons m rest ih =>
    have hname : (some name == some m.1) = (name == m.1) := rfl
    rw [Tree.ofMembers, List.lookup_cons, List.lookup_cons, ih, hname]
    cases name == m.1 <;> rfl

/-! ## Records -/

/-- In an object the last of several members with one name counts. -/
theorem lookup_orderMembers (members : List (String × Json)) (name : String) :
    (orderMembers members).lookup name = members.reverse.lookup name :=
  get?_object members

namespace Decoder

/-- Members with different names pass if each passes the check of the field with its name. -/
theorem checkMembers_ofMembers {fields : List Field} {mode : Mode} {seen : List String}
    {members : List (String × Json)} (hnodup : (members.map Prod.fst).Nodup)
    (hunseen : ∀ m ∈ members, m.1 ∉ seen)
    (hchecked : ∀ m ∈ members, ∀ f ∈ fields, f.name = m.1 →
      f.check mode (Tree.ofJson m.2) = .ok ()) :
    checkMembers fields mode seen (Tree.ofMembers members) = .ok () := by
  induction members generalizing seen with
  | nil => rfl
  | cons m rest ih =>
    rw [List.map_cons, List.nodup_cons] at hnodup
    obtain ⟨hm, hunseen⟩ := List.forall_mem_cons.1 hunseen
    obtain ⟨hcheck, hchecked⟩ := List.forall_mem_cons.1 hchecked
    rw [Tree.ofMembers, checkMembers]
    cases hfind : fields.find? fun f => f.name == m.1 with
    | none =>
      simp only [wellFormed_ofJson, if_true]
      exact ih hnodup.2 hunseen hchecked
    | some f =>
      -- The field is checked now, and its name must not come again.
      have hname : f.name = m.1 := by simpa using List.find?_some hfind
      have hnew : seen.contains m.1 = false := by simpa using hm
      simp only [hnew, Bool.false_eq_true, if_false,
        hcheck f (List.mem_of_find?_eq_some hfind) hname]
      apply ih hnodup.2 _ hchecked
      intro m' hm' hmem
      rcases List.mem_cons.1 hmem with hsame | hmem
      · exact hnodup.1 (List.mem_map.2 ⟨m', hm', hsame⟩)
      · exact hunseen m' hm' hmem

section Record

variable {α : Type} {fields : List Field} {build : Mode → Lookup → Except Fault α}
  {mode inner : Mode} {members : List (String × Json)}

/-- The members of an object are checked first, and then a record is built of them. -/
theorem record_ofJson (henter : mode.enter = .ok inner) :
    record fields build mode (Tree.ofJson (.obj members)) =
      (checkMembers fields inner [] (Tree.ofMembers members) >>= fun _ =>
        build inner fun name => (members.lookup name).map Tree.ofJson) := by
  rw [Tree.ofJson, record]
  simp only [lookup_ofMembers, henter]
  rfl

/-- A record is built of the members of an object, if they pass their checks. -/
theorem record_of_enter (henter : mode.enter = .ok inner) (hnodup : (members.map Prod.fst).Nodup)
    (hchecked : ∀ m ∈ members, ∀ f ∈ fields, f.name = m.1 →
      f.check inner (Tree.ofJson m.2) = .ok ()) :
    record fields build mode (Tree.ofJson (.obj members)) =
      build inner fun name => (members.lookup name).map Tree.ofJson := by
  rw [record_ofJson henter, checkMembers_ofMembers hnodup (fun _ _ => List.not_mem_nil) hchecked]
  rfl

/-- Whatever record is decoded is built of the members of the object. -/
theorem build_of_record {a : α} (henter : mode.enter = .ok inner)
    (h : record fields build mode (Tree.ofJson (.obj members)) = .ok a) :
    build inner (fun name => (members.lookup name).map Tree.ofJson) = .ok a := by
  rw [record_ofJson henter] at h
  obtain ⟨_, -, h⟩ := exists_of_bind_eq_ok h
  exact h

/-- The order in which the members of an object are given does not matter. -/
theorem record_object (henter : mode.enter = .ok inner) (hnodup : (members.map Prod.fst).Nodup)
    (hchecked : ∀ m ∈ members, ∀ f ∈ fields, f.name = m.1 →
      f.check inner (Tree.ofJson m.2) = .ok ()) :
    record fields build mode (Tree.ofJson (.object members)) =
      build inner fun name => (members.reverse.lookup name).map Tree.ofJson := by
  have hperm : (orderMembers members).Perm members := orderMembers_perm hnodup
  rw [object, record_of_enter henter ((hperm.map _).nodup_iff.2 hnodup) fun m hm =>
    hchecked m (hperm.mem_iff.1 hm)]
  simp only [lookup_orderMembers]

/-- A record that was read is built from the members of the object. -/
theorem build_of_record_object {a : α} (henter : mode.enter = .ok inner)
    (h : record fields build mode (Tree.ofJson (.object members)) = .ok a) :
    build inner (fun name => (members.reverse.lookup name).map Tree.ofJson) = .ok a := by
  simpa only [lookup_orderMembers] using build_of_record henter h

end Record

end Decoder

end Json

end Geofencing
