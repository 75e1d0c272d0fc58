import Geofencing.Geofence.Basic
import Geofencing.Proofs.Records
import Geofencing.Proofs.Timestamp

/-!
# Geofences written in JSON and read back

A geofence is written as an object, in which its shape is an object of its own, tagged with its
kind. Reading undoes writing member by member, and so it does for the whole.

Some geofences cannot be written as they are. A number that is not finite is written as `null`, and
so is metadata that is absent, which therefore cannot be told from metadata that is itself `null`.
An object has its members in order and a timestamp shows only some instants; values and instants
that were read themselves are always of this kind (`Json.Decoder.ordered_of_json`,
`Instant.regular_of_parse?`). The geofences that can be written are `Geofence.Writable`, and
precisely these are read back: `Geofence.json_round_trip`.
-/

namespace Geofencing

open Json (Tree decodeValue)

/-! ## Single values -/

namespace Json.Decoder

/-- A number is read back from JSON just when it is finite. -/
theorem decodeValue_float {x : Float} :
    decodeValue float (.float x) = .ok x ↔ Binary64.isFinite x = true := by
  rw [Json.float]
  split
  · rename_i h
    exact iff_of_true rfl h
  · rename_i h
    exact iff_of_false nofun h

/-- A text is read as what it stands for. -/
theorem decodeValue_parsed {α : Type} {parse : String → Option α} {s : String} {a : α} :
    decodeValue (parsed parse) (.str s) = .ok a ↔ parse s = some a := by
  rw [decodeValue, Tree.ofJson, parsed, string]
  dsimp only
  cases parse s <;> simp

/-- Anything but null is read as a value that is there. -/
theorem option_ofJson {α : Type} (d : Decoder α) (mode : Mode) {j : Json} (h : j ≠ .null) :
    option d mode (Tree.ofJson j) = (d mode (Tree.ofJson j)).map some := by
  cases j with
  | null => exact absurd rfl h
  | bool | num | str | arr | obj => rfl

/-- A value that is not `null` itself is there. -/
theorem decodeValue_option {m : Option Json} :
    decodeValue (option json) (m.getD .null) = .ok m ↔
      ∀ j, m = some j → j ≠ .null ∧ j.Ordered := by
  cases m with
  | none =>
    -- Absent metadata is written as `null`, and `null` is read as absent.
    exact iff_of_true rfl nofun
  | some j =>
    simp only [Option.getD_some, Option.some.injEq, forall_eq']
    by_cases hj : j = .null
    · subst hj
      exact iff_of_false nofun fun h => h.1 rfl
    · rw [decodeValue, option_ofJson json .inMemory hj, and_iff_right hj, ← json_ofJson_iff]
      cases json .inMemory (Tree.ofJson j) <;> simp [Except.map]

end Json.Decoder

open Json.Decoder

/-- Identifiers are read back. -/
theorem Uuid.decode_toJson (u : Uuid) : decodeValue decoder u.toJson = .ok u :=
  decodeValue_parsed.2 u.parse?_toText

/-- The kinds of areas are read back. -/
theorem AreaKind.decode_toJson (k : AreaKind) : decodeValue decoder k.toJson = .ok k := by
  rw [decodeValue, toJson, Tree.ofJson, decoder, named]
  simp only [parse?_text]

/-- A time is read back just when it has a calendar date and no leap second. -/
theorem Instant.decode_toJson {t : Instant} :
    decodeValue decoder t.toJson = .ok t ↔ t.Regular :=
  decodeValue_parsed.trans parse?_toText_iff

/-! ## Coordinates -/

/-- A coordinate is read back just when both of its numbers are finite. -/
theorem Coordinate.decode_toJson {c : Coordinate} :
    decodeValue decoder c.toJson = .ok c ↔
      Binary64.isFinite c.latitude = true ∧ Binary64.isFinite c.longitude = true := by
  simp only [← decodeValue_float]
  constructor
  · intro h
    rw [decodeValue, toJson, decoder] at h
    obtain ⟨latitude, hlatitude, h⟩ := exists_of_bind_eq_ok (build_of_record_object rfl h)
    obtain ⟨longitude, hlongitude, h⟩ := exists_of_bind_eq_ok h
    cases h
    simpa [decodeValue, required, List.lookup_cons] using And.intro hlatitude hlongitude
  · rintro ⟨hlatitude, hlongitude⟩
    rw [decodeValue] at hlatitude hlongitude ⊢
    rw [toJson, decoder, record_object rfl (by simp)]
    · simp [required, List.lookup_cons, hlatitude, hlongitude, bind, Except.bind, pure,
        Except.pure]
    · simp [Field.always, Json.Decoder.check, hlatitude, hlongitude, Except.map]

/-! ## Shapes -/

namespace Shape

/-- The numbers of a circle are finite, and the geometry of a polygon has its members in order. -/
def Writable : Shape → Prop
  | .circle center radius =>
    (Binary64.isFinite center.latitude = true ∧ Binary64.isFinite center.longitude = true) ∧
      Binary64.isFinite radius = true
  | .polygon geometry => geometry.Ordered

/-- The members of two objects are read one after the other. -/
theorem ofMembers_append (before after : List (String × Json)) :
    Tree.ofMembers (before ++ after) = Tree.ofMembers before ++ Tree.ofMembers after := by
  induction before with
  | nil => rfl
  | cons m rest ih => rw [List.cons_append, Tree.ofMembers, Tree.ofMembers, ih, List.cons_append]

section Tagged

variable {before after : List (String × Json)}

/-- Members with other names than the tag are passed over. -/
theorem scanTagged_append (h : ∀ m ∈ before, m.1 ≠ "kind") (tag : Option Tag)
    (rest : List (Option String × Tree)) :
    scanTagged .inMemory tag (Tree.ofMembers before ++ rest) = scanTagged .inMemory tag rest := by
  induction before with
  | nil => rfl
  | cons m before ih =>
    obtain ⟨hname, hbefore⟩ := List.forall_mem_cons.1 h
    -- The scan reads the value, although nothing is done with it here.
    obtain ⟨_, hvalue⟩ := exists_json m.2
    rw [Tree.ofMembers, List.cons_append, scanTagged.eq_def]
    simp only [hname, if_false, hvalue]
    exact ih hbefore

/-- Members with other names than the tag stay when the tag is taken out. -/
theorem filter_ofMembers (h : ∀ m ∈ before, m.1 ≠ "kind") :
    (Tree.ofMembers before).filter (fun m => m.1 != some "kind") = Tree.ofMembers before := by
  rw [List.filter_eq_self]
  induction before with
  | nil => exact nofun
  | cons m before ih =>
    obtain ⟨hname, hbefore⟩ := List.forall_mem_cons.1 h
    rw [Tree.ofMembers, List.forall_mem_cons]
    exact ⟨by simpa using hname, ih hbefore⟩

/-- The tag is found wherever it stands, and the other members are the content. -/
theorem decoder_tagged (tag : Tag) {text : String} (htag : Tag.parse? text = some tag)
    (hbefore : ∀ m ∈ before, m.1 ≠ "kind") (hafter : ∀ m ∈ after, m.1 ≠ "kind") :
    decoder .inMemory (Tree.ofJson (.obj (before ++ ("kind", .str text) :: after))) =
      contentDecoder tag .inMemory (Tree.ofJson (.obj (before ++ after))) := by
  -- The tag is found wherever it stands, and the decoder of the content does not see it.
  have hscan : scanTagged .inMemory none
      (Tree.ofMembers (before ++ ("kind", .str text) :: after)) = .ok (some tag) := by
    have hparsed : parsed Tag.parse? .inMemory (Tree.ofJson (.str text)) = .ok tag :=
      decodeValue_parsed.2 htag
    have hrest := scanTagged_append hafter (some tag) []
    rw [List.append_nil] at hrest
    rw [ofMembers_append, scanTagged_append hbefore, Tree.ofMembers, scanTagged, if_pos rfl]
    simp only [hparsed, hrest]
    rfl
  have hcontent : (Tree.ofMembers (before ++ ("kind", .str text) :: after)).filter
      (fun m => m.1 != some "kind") = Tree.ofMembers (before ++ after) := by
    rw [ofMembers_append, List.filter_append, filter_ofMembers hbefore, Tree.ofMembers,
      List.filter_cons_of_neg (by simp), filter_ofMembers hafter, ofMembers_append]
  rw [Tree.ofJson, decoder]
  simp only [Json.Mode.enter_inMemory, bind, Except.bind, hscan, hcontent]
  rfl

end Tagged

/-- In the order of the names, the tag stands between the other two members. -/
theorem decode_circle {center : Coordinate} {radius : Float} :
    decodeValue decoder (circle center radius).toJson = .ok (circle center radius) ↔
      (circle center radius).Writable := by
  have hjson : (circle center radius).toJson = .obj ([("center", center.toJson)] ++
      ("kind", .str "circular") :: [("radiusMeters", .float radius)]) := by
    have hnames : ["center", "kind", "radiusMeters"].Pairwise (· < ·) := by decide
    exact congrArg Json.obj (Json.orderMembers_eq_of_perm (.swap ..) hnames)
  -- Behind the tag is a record of two fields, each of which is read by itself.
  rw [Writable, ← Coordinate.decode_toJson, ← decodeValue_float, decodeValue, hjson,
    decoder_tagged .circular rfl (by simp) (by simp), contentDecoder, circleDecoder,
    List.singleton_append]
  constructor
  · intro h
    obtain ⟨c, hcenter, h⟩ := exists_of_bind_eq_ok (build_of_record rfl h)
    obtain ⟨r, hradius, h⟩ := exists_of_bind_eq_ok h
    cases h
    simpa [decodeValue, required, List.lookup_cons] using And.intro hcenter hradius
  · rintro ⟨hcenter, hradius⟩
    rw [decodeValue] at hcenter hradius
    rw [record_of_enter rfl (by simp)]
    · simp [required, List.lookup_cons, hcenter, hradius, bind, Except.bind, pure, Except.pure]
    · simp [Field.always, Json.Decoder.check, hcenter, hradius, Except.map]

/-- A polygon is read back just when its geometry may be written down. -/
theorem decode_polygon {geometry : Json} :
    decodeValue decoder (polygon geometry).toJson = .ok (polygon geometry) ↔
      (polygon geometry).Writable := by
  -- The tag comes last in the order of names.
  have hjson : (polygon geometry).toJson =
      .obj ([("geometry", geometry)] ++ ("kind", .str "polygon") :: []) := by
    have hnames : ["geometry", "kind"].Pairwise (· < ·) := by decide
    exact congrArg Json.obj (Json.orderMembers_eq_of_perm (.swap ..) hnames)
  rw [Writable, ← json_ofJson_iff, decodeValue, hjson,
    decoder_tagged .polygon rfl (by simp) (by simp), contentDecoder, polygonDecoder,
    List.append_nil]
  constructor
  · intro h
    obtain ⟨g, hgeometry, h⟩ := exists_of_bind_eq_ok (build_of_record rfl h)
    cases h
    simpa [decodeValue, required, List.lookup_cons] using hgeometry
  · intro hgeometry
    rw [record_of_enter rfl (by simp)]
    · simp [required, hgeometry, bind, Except.bind, pure, Except.pure]
    · simp [Field.always, Json.Decoder.check, hgeometry, Except.map]

/-- A shape is read back just when it may be written down. -/
theorem decode_toJson {s : Shape} : decodeValue decoder s.toJson = .ok s ↔ s.Writable := by
  cases s with
  | circle => exact decode_circle
  | polygon => exact decode_polygon

end Shape

/-! ## Geofences -/

namespace Geofence

/-- What is written of a geofence is all there is to it. -/
structure Writable (g : Geofence) : Prop where
  shape : g.shape.Writable
  /-- A null would be read as none. -/
  metadata : ∀ j, g.metadata = some j → j ≠ .null ∧ j.Ordered
  createdAt : g.createdAt.Regular
  updatedAt : g.updatedAt.Regular

variable {g : Geofence}

/-- Whatever is read back could be written down. -/
theorem writable_of_decode (h : decodeValue decoder g.toJson = .ok g) : g.Writable := by
  rw [decodeValue, toJson, decoder] at h
  -- The fields are read one after another, and what is read makes up the geofence itself.
  obtain ⟨id, -, h⟩ := exists_of_bind_eq_ok (build_of_record_object rfl h)
  obtain ⟨tenant, -, h⟩ := exists_of_bind_eq_ok h
  obtain ⟨name, -, h⟩ := exists_of_bind_eq_ok h
  obtain ⟨kind, -, h⟩ := exists_of_bind_eq_ok h
  obtain ⟨shape, hshape, h⟩ := exists_of_bind_eq_ok h
  obtain ⟨active, -, h⟩ := exists_of_bind_eq_ok h
  obtain ⟨metadata, hmetadata, h⟩ := exists_of_bind_eq_ok h
  obtain ⟨createdAt, hcreated, h⟩ := exists_of_bind_eq_ok h
  obtain ⟨updatedAt, hupdated, h⟩ := exists_of_bind_eq_ok h
  cases h
  refine ⟨Shape.decode_toJson.1 ?_, decodeValue_option.1 ?_, Instant.decode_toJson.1 ?_,
    Instant.decode_toJson.1 ?_⟩
  · simpa [decodeValue, required, List.lookup_cons] using hshape
  · simpa [decodeValue, Json.Decoder.optional, List.lookup_cons] using hmetadata
  · simpa [decodeValue, required, List.lookup_cons] using hcreated
  · simpa [decodeValue, required, List.lookup_cons] using hupdated

/-- Whatever may be written down is read back. -/
theorem decode_of_writable (h : g.Writable) : decodeValue decoder g.toJson = .ok g := by
  have hid := g.id.decode_toJson
  have htenant := g.tenant.decode_toJson
  have hname : decodeValue string (.str g.name) = .ok g.name := rfl
  have hkind := g.kind.decode_toJson
  have hshape := Shape.decode_toJson.2 h.shape
  have hactive : decodeValue bool (.bool g.active) = .ok g.active := rfl
  have hmetadata := decodeValue_option.2 h.metadata
  have hcreated := Instant.decode_toJson.2 h.createdAt
  have hupdated := Instant.decode_toJson.2 h.updatedAt
  rw [decodeValue] at *
  -- What a field is read as, it is read as twice: when it is checked and when it is collected.
  rw [toJson, decoder, record_object rfl (by simp)]
  · simp [required, Json.Decoder.optional, List.lookup_cons, hid, htenant, hname, hkind, hshape,
      hactive, hmetadata, hcreated, hupdated, bind, Except.bind, pure, Except.pure]
  · simp [Field.always, Json.Decoder.check, hid, htenant, hname, hkind, hshape, hactive, hmetadata,
      hcreated, hupdated, Except.map]

end Geofence

/-- A geofence that is read from its own written form is the same geofence again, in everything
that it consists of, if and only if it is writable: the numbers of its shape are finite, its
metadata is not `null` itself, all objects in it have their members in order, and its instants are
within reach, in whichever year, with no leap second but at the end of a minute. -/
theorem Geofence.json_round_trip (g : Geofence) :
    decodeValue decoder g.toJson = .ok g ↔ g.Writable :=
  ⟨writable_of_decode, decode_of_writable⟩

namespace Campus

/-- A tree that has stood on the grounds since the first instant, and was measured in the last
leap second. -/
def oak : Geofence :=
  { id := .ofNat 11, tenant := .ofNat 5, name := "Old \"oak\"", kind := .playground
    shape := .circle ⟨52.5, -13.25⟩ 12.5, active := false
    metadata := some (.obj [("height", .num (.float 18.5)), ("marks", .arr [.null, .str "A"])])
    createdAt := ⟨Instant.minSeconds, 1⟩, updatedAt := ⟨Instant.maxSeconds, 1500000000⟩ }

end Campus

theorem Geofence.json_round_trip_oak :
    decodeValue decoder Campus.oak.toJson = .ok Campus.oak := by
  refine (json_round_trip Campus.oak).2 ⟨?_, ?_, by decide, by decide⟩
  · exact ⟨⟨by decide +kernel, by decide +kernel⟩, by decide +kernel⟩
  · intro j hj
    cases hj
    exact ⟨nofun, by decide, trivial, ⟨trivial, trivial, trivial⟩, trivial⟩

end Geofencing
