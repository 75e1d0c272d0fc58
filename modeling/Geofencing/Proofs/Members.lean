import Geofencing.Proofs.Shown

/-!
# Members in order

An object holds its members in ascending order of their names, each name once, and so does every
object inside it: such a value is `Json.Ordered`. Nothing but the order of the members is lost when
a value is put together or read.

* `Json.orderMembers_perm`: an object of different names has exactly the members it is made of, and
  `Json.orderMembers_eq_of_perm`: there is only one order for them.
* `Json.Decoder.ordered_of_json`: whatever is read is ordered.
* `Json.Decoder.json_ofJson_iff`: the values that are read as themselves are the ordered ones.
-/

namespace Geofencing

namespace Json

section Members

variable {name : String} {value : Json} {members : List (String × Json)}

/-- An object has no other members than the inserted one and those it had. -/
theorem mem_insertMember {m : String × Json} (h : m ∈ insertMember name value members) :
    m = (name, value) ∨ m ∈ members := by
  induction members with
  | nil => exact .inl (List.mem_singleton.1 h)
  | cons first rest ih =>
    rw [insertMember] at h
    split at h
    · exact (List.mem_cons.1 h).imp_right (List.mem_cons_of_mem _)
    · split at h
      · exact List.mem_cons.1 h
      · rcases List.mem_cons.1 h with rfl | h
        · exact .inr List.mem_cons_self
        · exact (ih h).imp_right (List.mem_cons_of_mem _)

/-- No other members come from inserting many. -/
theorem mem_foldl_insertMember {m : String × Json} {acc : List (String × Json)}
    (h : m ∈ members.foldl (fun acc m => insertMember m.1 m.2 acc) acc) :
    m ∈ acc ∨ m ∈ members := by
  induction members generalizing acc with
  | nil => exact .inl h
  | cons first rest ih =>
    -- The first member may have replaced one, but it is a member itself.
    rcases ih h with h | h
    · rcases mem_insertMember h with rfl | h
      · exact .inr List.mem_cons_self
      · exact .inl h
    · exact .inr (List.mem_cons_of_mem _ h)

/-- No member comes from anywhere else. -/
theorem mem_orderMembers {m : String × Json} (h : m ∈ orderMembers members) : m ∈ members :=
  (mem_foldl_insertMember h).resolve_left List.not_mem_nil

/-- A member with a new name is added to those that are there. -/
theorem insertMember_perm (h : name ∉ members.map Prod.fst) :
    (insertMember name value members).Perm ((name, value) :: members) := by
  induction members with
  | nil => exact .refl _
  | cons m rest ih =>
    rw [List.map_cons, List.mem_cons, not_or] at h
    rw [insertMember, if_neg h.1]
    split
    · exact .refl _
    · exact ((ih h.2).cons _).trans (.swap ..)

/-- Members with different names are all added, and none is lost. -/
theorem foldl_insertMember_perm (acc : List (String × Json))
    (h : ((acc ++ members).map Prod.fst).Nodup) :
    (members.foldl (fun acc m => insertMember m.1 m.2 acc) acc).Perm (acc ++ members) := by
  induction members generalizing acc with
  | nil => rw [List.foldl_nil, List.append_nil]
  | cons m rest ih =>
    have hnew : m.1 ∉ acc.map Prod.fst := by
      rw [List.map_append, List.nodup_append] at h
      exact fun hm => h.2.2 _ hm _ List.mem_cons_self rfl
    -- The names stay different when the member moves to the others.
    have hperm : (acc ++ m :: rest).Perm (insertMember m.1 m.2 acc ++ rest) :=
      List.perm_middle.trans ((insertMember_perm hnew).symm.append_right rest)
    exact (ih _ ((hperm.map Prod.fst).nodup_iff.1 h)).trans hperm.symm

/-- Members of different names are only put in order. -/
theorem orderMembers_perm (h : (members.map Prod.fst).Nodup) :
    (orderMembers members).Perm members :=
  foldl_insertMember_perm [] h

/-- A member is inserted where its name belongs. -/
theorem insertMember_pairwise (h : (members.map Prod.fst).Pairwise (· < ·)) :
    ((insertMember name value members).map Prod.fst).Pairwise (· < ·) := by
  induction members with
  | nil => exact List.pairwise_singleton _ _
  | cons m rest ih =>
    obtain ⟨hm, hrest⟩ := List.pairwise_cons.1 h
    rw [insertMember]
    split
    · rename_i heq
      rw [List.map_cons, heq]
      exact h
    · rename_i hne
      split
      · rename_i hlt
        refine List.pairwise_cons.2 ⟨fun k hk => ?_, h⟩
        rcases List.mem_cons.1 hk with rfl | hk
        · exact hlt
        · exact String.lt_trans hlt (hm k hk)
      · rename_i hnot
        -- The name comes somewhere after the first one.
        have hlt : m.1 < name :=
          Decidable.by_contra fun h => hne (String.le_antisymm (String.not_lt.1 h)
            (String.not_lt.1 hnot))
        refine List.pairwise_cons.2 ⟨fun k hk => ?_, ih hrest⟩
        obtain ⟨m', hm', rfl⟩ := List.mem_map.1 hk
        rcases mem_insertMember hm' with rfl | hm'
        · exact hlt
        · exact hm _ (List.mem_map_of_mem hm')

/-- However many members are inserted, their names stay in order. -/
theorem foldl_insertMember_pairwise (members : List (String × Json))
    {acc : List (String × Json)} (h : (acc.map Prod.fst).Pairwise (· < ·)) :
    ((members.foldl (fun acc m => insertMember m.1 m.2 acc) acc).map Prod.fst).Pairwise
      (· < ·) := by
  induction members generalizing acc with
  | nil => exact h
  | cons m rest ih => exact ih (insertMember_pairwise h)

/-- The names of an object are in order, each once. -/
theorem orderMembers_pairwise (members : List (String × Json)) :
    ((orderMembers members).map Prod.fst).Pairwise (· < ·) :=
  foldl_insertMember_pairwise members .nil

/-- There is only one way to put members of different names in order. -/
theorem orderMembers_eq_of_perm {sorted : List (String × Json)} (hperm : members.Perm sorted)
    (h : (sorted.map Prod.fst).Pairwise (· < ·)) : orderMembers members = sorted := by
  have hne : ∀ {a b : String}, a < b → a ≠ b := fun hlt heq => String.lt_irrefl _ (heq ▸ hlt)
  have hnodup : (members.map Prod.fst).Nodup := (hperm.map Prod.fst).nodup_iff.2 (h.imp hne)
  have hsorted := orderMembers_pairwise members
  rw [List.pairwise_map] at h hsorted
  exact ((orderMembers_perm hnodup).trans hperm).eq_of_pairwise
    (fun _ _ _ _ hab hba => absurd hba (String.lt_asymm hab)) hsorted h

end Members

/-! ## Values in order -/

mutual

/-- The members of every object in a value are in ascending order of their names, each once. -/
def Ordered : Json → Prop
  | .null | .bool _ | .num _ | .str _ => True
  | .arr items => ItemsOrdered items
  | .obj members => (members.map Prod.fst).Pairwise (· < ·) ∧ MembersOrdered members

/-- All items are ordered. -/
def ItemsOrdered : List Json → Prop
  | [] => True
  | j :: rest => Ordered j ∧ ItemsOrdered rest

/-- The values of all members are ordered. -/
def MembersOrdered : List (String × Json) → Prop
  | [] => True
  | (_, j) :: rest => Ordered j ∧ MembersOrdered rest

end

theorem membersOrdered_iff {members : List (String × Json)} :
    MembersOrdered members ↔ ∀ m ∈ members, m.2.Ordered := by
  induction members with
  | nil => simp [MembersOrdered]
  | cons m rest ih => rw [MembersOrdered, ih, List.forall_mem_cons]

/-- An object is ordered if the values in it are, however its members are given. -/
theorem ordered_object {members : List (String × Json)} (h : MembersOrdered members) :
    (object members).Ordered :=
  ⟨orderMembers_pairwise members,
    membersOrdered_iff.2 fun m hm => membersOrdered_iff.1 h m (mem_orderMembers hm)⟩

/-! ## Reading values -/

/-- There is no limit to the depth of a value in memory. -/
@[simp]
theorem Mode.enter_inMemory : inMemory.enter = .ok inMemory := rfl

namespace Decoder

mutual

/-- Whatever value is read, of whatever text, it is ordered. -/
theorem ordered_of_json : ∀ {mode : Mode} {t : Tree} {j : Json}, json mode t = .ok j → j.Ordered
  | _, .null, _, h | _, .bool _, _, h | _, .number _, _, h | _, .text _, _, h => by
    cases h
    trivial
  | _, .array items closed, _, h => by
    -- An array may be too deep, have a fault in it or not be closed; then there is no value.
    rw [json] at h
    split at h
    · cases h
    · split at h
      · cases h
      · rename_i hitems
        split at h
        · cases h
          exact ordered_of_jsonItems hitems
        · cases h
  | _, .object members closed, _, h => by
    rw [json] at h
    split at h
    · cases h
    · split at h
      · cases h
      · rename_i hmembers
        split at h
        · cases h
          -- The members are put in order, in whichever they stand.
          exact ordered_object (ordered_of_jsonMembers hmembers)
        · cases h
  | _, .fault, _, h | _, .excessive _, _, h | _, .garbled _, _, h => by cases h

/-- All items that are read are ordered. -/
theorem ordered_of_jsonItems : ∀ {mode : Mode} {items : List Tree} {js : List Json},
    jsonItems mode items = .ok js → ItemsOrdered js
  | _, [], _, h => by
    cases h
    trivial
  | _, t :: rest, _, h => by
    rw [jsonItems] at h
    split at h
    · cases h
    · rename_i hfirst
      split at h
      · cases h
      · rename_i hrest
        cases h
        exact ⟨ordered_of_json hfirst, ordered_of_jsonItems hrest⟩

theorem ordered_of_jsonMembers : ∀ {mode : Mode} {members : List (Option String × Tree)}
    {ms : List (String × Json)}, jsonMembers mode members = .ok ms → MembersOrdered ms
  | _, [], _, h => by
    cases h
    trivial
  | _, (none, _) :: _, _, h => by cases h
  | _, (some k, t) :: rest, _, h => by
    rw [jsonMembers] at h
    split at h
    · cases h
    · rename_i hfirst
      split at h
      · cases h
      · rename_i hrest
        cases h
        exact ⟨ordered_of_json hfirst, ordered_of_jsonMembers hrest⟩

end

mutual

/-- A value in memory is always read. -/
theorem exists_json : ∀ j : Json, ∃ j', json .inMemory (Tree.ofJson j) = .ok j'
  | .null | .bool _ | .num _ | .str _ => ⟨_, rfl⟩
  | .arr items => by
    obtain ⟨js, hitems⟩ := exists_jsonItems items
    rw [Tree.ofJson, json]
    simp only [Mode.enter_inMemory, hitems, if_true]
    exact ⟨_, rfl⟩
  | .obj members => by
    obtain ⟨ms, hmembers⟩ := exists_jsonMembers members
    rw [Tree.ofJson, json]
    simp only [Mode.enter_inMemory, hmembers, if_true]
    exact ⟨_, rfl⟩

/-- Any items in memory are read. -/
theorem exists_jsonItems : ∀ items : List Json,
    ∃ js, jsonItems .inMemory (Tree.ofItems items) = .ok js
  | [] => ⟨_, rfl⟩
  | j :: rest => by
    obtain ⟨j', hfirst⟩ := exists_json j
    obtain ⟨js, hrest⟩ := exists_jsonItems rest
    rw [Tree.ofItems, jsonItems, hfirst, hrest]
    exact ⟨_, rfl⟩

theorem exists_jsonMembers : ∀ members : List (String × Json),
    ∃ ms, jsonMembers .inMemory (Tree.ofMembers members) = .ok ms
  | [] => ⟨_, rfl⟩
  | (_, j) :: rest => by
    obtain ⟨j', hfirst⟩ := exists_json j
    obtain ⟨ms, hrest⟩ := exists_jsonMembers rest
    rw [Tree.ofMembers, jsonMembers, hfirst, hrest]
    exact ⟨_, rfl⟩

end

mutual

/-- An ordered value is read as it is. -/
theorem json_ofJson : ∀ {j : Json}, j.Ordered → json .inMemory (Tree.ofJson j) = .ok j
  | .null, _ | .bool _, _ | .num _, _ | .str _, _ => rfl
  | .arr items, h => by
    rw [Tree.ofJson, json]
    simp only [Mode.enter_inMemory, jsonItems_ofItems h, if_true]
  | .obj members, h => by
    rw [Tree.ofJson, json]
    simp only [Mode.enter_inMemory, jsonMembers_ofMembers h.2, if_true, object,
      orderMembers_eq_of_perm (.refl members) h.1]

/-- Ordered items are read as themselves. -/
theorem jsonItems_ofItems : ∀ {items : List Json}, ItemsOrdered items →
    jsonItems .inMemory (Tree.ofItems items) = .ok items
  | [], _ => rfl
  | j :: rest, h => by
    rw [Tree.ofItems, jsonItems, json_ofJson h.1, jsonItems_ofItems h.2]

theorem jsonMembers_ofMembers : ∀ {members : List (String × Json)}, MembersOrdered members →
    jsonMembers .inMemory (Tree.ofMembers members) = .ok members
  | [], _ => rfl
  | (k, j) :: rest, h => by
    rw [Tree.ofMembers, jsonMembers, json_ofJson h.1, jsonMembers_ofMembers h.2]

end

/-- The values that are read as themselves are the ordered ones. -/
theorem json_ofJson_iff {j : Json} : json .inMemory (Tree.ofJson j) = .ok j ↔ j.Ordered :=
  ⟨ordered_of_json, json_ofJson⟩

end Decoder

end Json

end Geofencing
