import Geofencing.Http.Target
import Geofencing.Proofs.Quoted
import Geofencing.Proofs.Shown

/-!
# Texts of queries

A query consists of fields joined by ampersands, each a name and a value with an equals sign between
them (`Http.queryText`). In a name or value four characters do not stand for themselves: the
ampersand, the equals sign, the plus sign and the percent sign. Fields without them are read as they
were written (`Http.formFields_queryText`), and so is an identifier, in a query or in a path. So
what is said of a query or a path that was read can be said of its text.
-/

namespace Geofencing

/-! ## Separators -/

namespace Text

variable {separator : Char} {front : List Char}

/-- Without a separator there is one part. -/
theorem splitOn_of_notMem (h : separator ∉ front) : splitOn separator front = [front] := by
  induction front with
  | nil => rfl
  | cons c front ih =>
    obtain ⟨hne, hfront⟩ := not_or.1 (mt List.mem_cons.2 h)
    rw [splitOn, ih hfront]
    exact if_neg (Ne.symm hne)

/-- The first separator ends the first part. -/
theorem splitOn_append (h : separator ∉ front) (rest : List Char) :
    splitOn separator (front ++ separator :: rest) = front :: splitOn separator rest := by
  induction front with
  | nil =>
    rw [List.nil_append, splitOn]
    split
    · rename_i hnil
      exact absurd hnil (splitOn_ne_nil separator rest)
    · rename_i part parts hparts
      rw [if_pos rfl, hparts]
  | cons c front ih =>
    obtain ⟨hne, hfront⟩ := not_or.1 (mt List.mem_cons.2 h)
    rw [List.cons_append, splitOn, ih hfront]
    exact if_neg (Ne.symm hne)

/-- Parts that hold no separator are found again. -/
theorem splitOn_intercalate {parts : List (List Char)} (hne : parts ≠ [])
    (h : ∀ part ∈ parts, separator ∉ part) :
    splitOn separator ([separator].intercalate parts) = parts := by
  induction parts with
  | nil => exact absurd rfl hne
  | cons part parts ih =>
    obtain ⟨hpart, hparts⟩ := List.forall_mem_cons.1 h
    cases parts with
    | nil =>
      rw [List.intercalate_singleton]
      exact splitOn_of_notMem hpart
    | cons next parts =>
      rw [List.intercalate_cons_cons, List.append_assoc, List.singleton_append,
        splitOn_append hpart, ih (List.cons_ne_nil _ _) hparts]

/-- A cut takes place at the first separator. -/
theorem cut_append (h : separator ∉ front) (rest : List Char) :
    cut separator (front ++ separator :: rest) = (front, some rest) := by
  induction front with
  | nil => exact if_pos rfl
  | cons c front ih =>
    obtain ⟨hne, hfront⟩ := not_or.1 (mt List.mem_cons.2 h)
    rw [List.cons_append, cut, if_neg (Ne.symm hne), ih hfront]

end Text

namespace Http

/-! ## Characters that stand for themselves -/

/-- Whether a character stands for itself in a name or value of a query. -/
def isVerbatim (c : Char) : Bool :=
  c != '&' && c != '=' && c != '+' && c != '%'

/-- All characters of a text stand for themselves. -/
def Verbatim (s : String) : Prop :=
  s.toList.all isVerbatim = true

variable {s : String}

/-- A character that means something else does not occur. -/
theorem Verbatim.notMem (h : Verbatim s) {c : Char} (hc : isVerbatim c = false) : c ∉ s.toList :=
  fun hmem => absurd (List.all_eq_true.1 h c hmem) (Bool.eq_false_iff.1 hc)

/-- Without a percent sign all characters are encoded as they are. -/
theorem percentDecode_of_notMem {cs : List Char} (h : '%' ∉ cs) :
    percentDecode cs = Utf8.encode cs := by
  fun_induction percentDecode cs with
  | case1 => rfl
  | case2 => exact absurd List.mem_cons_self h
  | case3 => exact absurd List.mem_cons_self h
  | case4 c rest _ ih =>
    rw [ih fun hmem => h (List.mem_cons_of_mem _ hmem)]
    rfl

/-- Text that stands for itself in a form is read as it is. -/
theorem formText_of_verbatim (h : Verbatim s) : formText s.toList = s := by
  have hblanks : (s.toList.map fun c => if c = '+' then ' ' else c) = s.toList := by
    refine (List.map_congr_left fun c hc => if_neg ?_).trans (List.map_id _)
    rintro rfl
    exact h.notMem rfl hc
  rw [formText, hblanks, percentDecode_of_notMem (h.notMem rfl), Utf8.decode?_encode]
  rfl

/-! ## Fields -/

/-- The text of a query with given fields. -/
def queryText (fields : List (String × String)) : List Char :=
  ['&'].intercalate (fields.map fun f => f.1.toList ++ '=' :: f.2.toList)

/-- Fields are read as they were written, if all their characters stand for themselves. -/
theorem formFields_queryText {fields : List (String × String)}
    (h : ∀ f ∈ fields, Verbatim f.1 ∧ Verbatim f.2) : formFields (queryText fields) = fields := by
  let part := fun f : String × String => f.1.toList ++ '=' :: f.2.toList
  -- The parts that are not empty are those of the fields, also if there is no field at all.
  have hparts : ((Text.splitOn '&' (queryText fields)).filter fun cs => !cs.isEmpty) =
      fields.map part := by
    by_cases hfields : fields = []
    · rw [hfields]
      rfl
    · have hamp : ∀ cs ∈ fields.map part, '&' ∉ cs := by
        rw [List.forall_mem_map]
        intro f hf
        simp [part, (h f hf).1.notMem (c := '&') rfl, (h f hf).2.notMem (c := '&') rfl]
      have hne : fields.map part ≠ [] := mt List.map_eq_nil_iff.1 hfields
      rw [queryText, Text.splitOn_intercalate hne hamp, List.filter_eq_self, List.forall_mem_map]
      intro f _
      simp [part]
  rw [formFields, hparts, List.map_map]
  refine (List.map_congr_left fun f hf => ?_).trans (List.map_id _)
  obtain ⟨hname, hvalue⟩ := h f hf
  rw [Function.comp_apply, Text.cut_append (hname.notMem rfl)]
  exact Prod.ext (formText_of_verbatim hname) (formText_of_verbatim hvalue)

/-! ## Identifiers -/

/-- The written form of an identifier consists of hexadecimal digits and hyphens. -/
theorem verbatim_toText (id : Uuid) : Verbatim id.toText := by
  -- An identifier is written in hexadecimal digits and hyphens.
  have hdigit : ∀ d < 16, isVerbatim (Nat.digitChar d) = true := by decide
  have hdigits : ∀ count n, ∀ c ∈ Hex.digits count n, isVerbatim c = true := by
    intro count n
    induction count generalizing n with
    | zero => exact fun _ h => absurd h List.not_mem_nil
    | succ count ih =>
      rw [Hex.digits, List.forall_mem_append]
      refine ⟨ih _, ?_⟩
      rw [List.forall_mem_singleton]
      exact hdigit _ (Nat.mod_lt n (by decide))
  have hds := hdigits 32 id.value
  have htext : id.toText.toList = id.chars := String.toList_ofList
  rw [Verbatim, htext, Uuid.chars, List.all_eq_true]
  generalize Hex.digits 32 id.value = ds at hds
  simp only [List.forall_mem_append, List.forall_mem_cons]
  exact ⟨fun c hc => hds c (List.mem_of_mem_take hc), rfl,
    fun c hc => hds c (List.mem_of_mem_drop (List.mem_of_mem_take hc)), rfl,
    fun c hc => hds c (List.mem_of_mem_drop (List.mem_of_mem_take hc)), rfl,
    fun c hc => hds c (List.mem_of_mem_drop (List.mem_of_mem_take hc)), rfl,
    fun c hc => hds c (List.mem_of_mem_drop hc)⟩

/-- The written form of an identifier in a path is read as the identifier. -/
theorem segmentId?_toText (id : Uuid) : segmentId? id.toText.toList = some id := by
  rw [segmentId?, percentDecode_of_notMem ((verbatim_toText id).notMem rfl), Utf8.decode?_encode,
    Option.bind_some, Uuid.parse?_toText]

/-- The query for the events of an actor. -/
theorem eventQuery?_actor (id : Uuid) :
    eventQuery? (queryText [("actorId", id.toText)]) = some ⟨some id, none, none⟩ := by
  have hname : Verbatim "actorId" := by
    rw [Verbatim]
    decide
  have hfields : formFields (queryText [("actorId", id.toText)]) = [("actorId", id.toText)] := by
    refine formFields_queryText ?_
    rw [List.forall_mem_singleton]
    exact ⟨hname, verbatim_toText id⟩
  rw [eventQuery?, hfields]
  simp [formField, Uuid.parse?_toText]

end Http

end Geofencing
