import Geofencing.Json.Decode
import Mathlib.Data.List.Basic
import Mathlib.Tactic.SplitIfs

/-!
# Quoted texts and back

A JSON text is read byte by byte, and each byte is seen as the character with its number
(`Reader.seen`). For ASCII characters that makes no difference. Any other character is seen as
several ones, none of which is ASCII, so no byte of it is taken for a quote or a backslash.

What is read is put together from pieces: `Reader.Reads` says that some characters inside quotes
stand for some bytes, whatever follows them. Every character is read from its written form
(`Reader.reads_escape`), and so is every text (`Reader.scalar_quote`).
-/

namespace Geofencing

/-! ## Texts as bytes -/

namespace Utf8

theorem encode_append (cs cs' : List Char) : encode (cs ++ cs') = encode cs ++ encode cs' :=
  List.flatMap_append

/-- The bytes of a text are read as the text. -/
theorem decode?_encode (s : String) : decode? (encode s.toList) = some s := by
  have hbytes : ByteArray.mk (encode s.toList).toArray = s.toByteArray := by
    rw [← String.ofList_toList (s := s), String.toByteArray_ofList, List.utf8Encode]
    apply ByteArray.ext
    rw [List.data_toByteArray, String.toList_ofList]
    rfl
  rw [decode?, hbytes, String.fromUTF8?, dif_pos s.isValidUTF8]
  rfl

/-- An ASCII character is encoded by the byte of its own code. -/
theorem utf8EncodeChar_of_ascii {c : Char} (h : c.toNat < 128) :
    String.utf8EncodeChar c = [c.toUInt8] :=
  if_pos (Nat.le_of_lt_succ h)

/-- No byte of a character beyond ASCII is that of an ASCII character. -/
theorem le_of_mem_utf8EncodeChar {c : Char} (h : 128 ≤ c.toNat) :
    ∀ b ∈ String.utf8EncodeChar c, 128 ≤ b.toNat := by
  change 128 ≤ c.val.toNat at h
  rw [String.utf8EncodeChar]
  generalize c.val.toNat = v at h
  -- One case for each number of bytes that a character may take up.
  split
  · omega
  · split
    · simp only [List.forall_mem_cons, UInt8.toNat_ofNat']
      exact ⟨by omega, by omega, nofun⟩
    · split
      · simp only [List.forall_mem_cons, UInt8.toNat_ofNat']
        exact ⟨by omega, by omega, by omega, nofun⟩
      · simp only [List.forall_mem_cons, UInt8.toNat_ofNat']
        exact ⟨by omega, by omega, by omega, by omega, nofun⟩

end Utf8

namespace Json.Reader

/-! ## Bytes as characters -/

/-- A byte, seen as the character with its number. -/
def seenAs (b : UInt8) : Char := Char.ofNat b.toNat

/-- The bytes of characters, each seen as the character with its number. -/
def seen (cs : List Char) : List Char :=
  (Utf8.encode cs).map seenAs

/-- The reader sees a byte as the character of the same code. -/
theorem toNat_seenAs (b : UInt8) : (seenAs b).toNat = b.toNat := by
  have hb := b.toNat_lt
  have hvalid : b.toNat.isValidChar := .inl (by omega)
  rw [seenAs, Char.ofNat, dif_pos hvalid]
  rfl

/-- The byte behind the character the reader sees is the byte read. -/
theorem toUInt8_seenAs (b : UInt8) : (seenAs b).toUInt8 = b := by
  have hb := b.toNat_lt
  have h : (seenAs b).toUInt8.toNat = (seenAs b).toNat % 256 := UInt32.toNat_toUInt8 _
  rw [toNat_seenAs] at h
  apply UInt8.toNat_inj.1
  omega

/-- An ASCII character is seen as itself. -/
theorem seenAs_toUInt8 {c : Char} (h : c.toNat < 128) : seenAs c.toUInt8 = c := by
  have hc : c.toUInt8.toNat = c.toNat % 256 := UInt32.toNat_toUInt8 _
  rw [seenAs, hc, Nat.mod_eq_of_lt (by omega), Char.ofNat_toNat]

/-- What the reader sees of two texts is what it sees of each. -/
theorem seen_append (cs cs' : List Char) : seen (cs ++ cs') = seen cs ++ seen cs' := by
  rw [seen, Utf8.encode_append, List.map_append]
  rfl

/-- A leading ASCII character is seen as itself. -/
theorem seen_cons {c : Char} (h : c.toNat < 128) (cs : List Char) :
    seen (c :: cs) = c :: seen cs := by
  rw [seen, Utf8.encode, List.flatMap_cons, Utf8.utf8EncodeChar_of_ascii h, List.map_append,
    List.map_cons, seenAs_toUInt8 h]
  rfl

/-- Whether all characters are ASCII. -/
def isAscii (cs : List Char) : Bool := cs.all fun c => c.toNat < 128

/-- ASCII characters are seen as what they are. -/
theorem seen_of_ascii {cs : List Char} (h : isAscii cs = true) : seen cs = cs := by
  induction cs with
  | nil => rfl
  | cons c cs ih =>
    rw [isAscii, List.all_cons, Bool.and_eq_true, decide_eq_true_eq] at h
    rw [seen_cons h.1, ih h.2]

/-! ## Single elements -/

variable {c c' : Char}

/-- A character that is neither a control character, a quote nor a backslash stands for its own
byte. -/
theorem elements_plain (hcontrol : 32 ≤ c.toNat) (hquote : c ≠ '"') (hslash : c ≠ '\\')
    (rest : List Char) :
    elements (c :: rest) = (elements rest).map fun p => (.byte c.toUInt8 :: p.1, p.2) := by
  -- The reader knows characters by cases, of which only the last one is left.
  rw [elements.eq_def]
  split
  · rename_i heq
    cases heq
  · rename_i heq
    cases heq
    exact absurd rfl hquote
  · rename_i heq
    cases heq
    exact absurd rfl hslash
  · rename_i heq
    cases heq
    exact absurd rfl hslash
  · rename_i heq
    cases heq
    have hplain : (decide (c.toNat < 32) || c == '\\') = false := by simp [hslash, hcontrol]
    rw [hplain, if_neg Bool.false_ne_true]
    cases elements rest <;> rfl

/-- A backslash and its letter stand for the byte of the escaped character. -/
theorem elements_escaped (h : escaped? c' = some c) (rest : List Char) :
    elements ('\\' :: c' :: rest) =
      (elements rest).map fun p => (.byte c.toUInt8 :: p.1, p.2) := by
  rw [elements.eq_def]
  split
  · rename_i heq
    cases heq
  · rename_i heq
    cases heq
  · -- The letter of an escape with four digits is not one that stands for a character.
    rename_i heq
    cases heq
    cases h
  · rename_i heq
    cases heq
    rw [h]
    cases elements rest <;> rfl
  · rename_i hno heq
    cases heq
    exact (hno c' rest rfl rfl).elim

/-- A four-digit escape of a control character stands for that code unit. -/
theorem elements_control {n : Nat} (h : n < 32) (rest : List Char) :
    elements ('\\' :: 'u' :: '0' :: '0' :: (hexPair n ++ rest)) =
      (elements rest).map fun p => (.unit n :: p.1, p.2) := by
  have hzero : Hex.digit? '0' = some 0 := rfl
  have hn : ((0 * 16 + 0) * 16 + n / 16 % 16) * 16 + n % 16 = n := by omega
  rw [hexPair, List.cons_append, List.cons_append, List.nil_append, elements, hzero,
    Hex.digit?_digitChar _ (by omega), Hex.digit?_digitChar _ (by omega)]
  simp only [Option.bind_eq_bind, Option.bind_some]
  rw [hn]
  cases elements rest <;> rfl

/-! ## What characters inside quotes stand for -/

/-- Characters inside quotes stand for bytes, whatever elements follow them. -/
def Reads (front : List Char) (bytes : List UInt8) : Prop :=
  ∃ es, (∀ rest, elements (front ++ rest) = (elements rest).map fun p => (es ++ p.1, p.2)) ∧
    ∀ later, join (es ++ later) = (join later).map (bytes ++ ·)

namespace Reads

variable {front front' : List Char} {bytes bytes' : List UInt8}

theorem nil : Reads [] [] := by
  refine ⟨[], fun rest => ?_, fun later => ?_⟩
  · simp
  · rw [List.nil_append]
    cases join later <;> rfl

/-- One element that joins to the bytes reads as them, whatever follows. -/
theorem single {e : Element}
    (helements : ∀ rest, elements (front ++ rest) = (elements rest).map fun p => (e :: p.1, p.2))
    (hjoin : ∀ later, join (e :: later) = (join later).map (bytes ++ ·)) : Reads front bytes :=
  ⟨[e], helements, hjoin⟩

/-- Readings follow one another. -/
theorem append (h : Reads front bytes) (h' : Reads front' bytes') :
    Reads (front ++ front') (bytes ++ bytes') := by
  obtain ⟨es, helements, hjoin⟩ := h
  obtain ⟨es', helements', hjoin'⟩ := h'
  refine ⟨es ++ es', fun rest => ?_, fun later => ?_⟩
  · rw [List.append_assoc, helements, helements', Option.map_map]
    simp [Function.comp_def]
  · rw [List.append_assoc, hjoin, hjoin']
    cases join later <;> simp [Except.map]

end Reads

/-- A character that needs no escape reads as its own encoding. -/
theorem reads_plain (hcontrol : 32 ≤ c.toNat) (hquote : c ≠ '"') (hslash : c ≠ '\\') :
    Reads (seen [c]) (String.utf8EncodeChar c) := by
  have hplain : ∀ b ∈ String.utf8EncodeChar c,
      32 ≤ b.toNat ∧ seenAs b ≠ '"' ∧ seenAs b ≠ '\\' := by
    intro b hb
    obtain hc | hc := Nat.lt_or_ge c.toNat 128
    · rw [Utf8.utf8EncodeChar_of_ascii hc] at hb
      rw [List.mem_singleton.1 hb, ← toNat_seenAs, seenAs_toUInt8 hc]
      exact ⟨hcontrol, hquote, hslash⟩
    · have hle := Utf8.le_of_mem_utf8EncodeChar hc b hb
      have hne : ∀ d : Char, d.toNat < 128 → seenAs b ≠ d := by
        rintro d hd rfl
        rw [toNat_seenAs] at hd
        omega
      exact ⟨by omega, hne '"' (by decide), hne '\\' (by decide)⟩
  rw [seen, Utf8.encode, List.flatMap_singleton]
  generalize String.utf8EncodeChar c = bytes at hplain
  -- Byte by byte, as none of them has a meaning inside quotes.
  induction bytes with
  | nil => exact .nil
  | cons b bytes ih =>
    obtain ⟨⟨hcontrol, hquote, hslash⟩, hbytes⟩ := List.forall_mem_cons.1 hplain
    have hb : Reads [seenAs b] [b] := by
      refine .single (e := .byte b) (fun rest => ?_) fun _ => rfl
      rw [List.singleton_append, elements_plain (by rwa [toNat_seenAs]) hquote hslash,
        toUInt8_seenAs]
    exact hb.append (ih hbytes)

/-- An escaped ASCII character reads as its own encoding. -/
theorem reads_escaped (hc : c.toNat < 128) (hc' : c'.toNat < 128) (h : escaped? c' = some c) :
    Reads (seen ['\\', c']) (String.utf8EncodeChar c) := by
  have hascii : isAscii ['\\', c'] = true := by simp [isAscii, hc']
  rw [seen_of_ascii hascii, Utf8.utf8EncodeChar_of_ascii hc]
  exact .single (elements_escaped h) fun _ => rfl

/-- A control character written with four digits reads as its own encoding. -/
theorem reads_control (h : c.toNat < 32) :
    Reads (seen ('\\' :: 'u' :: '0' :: '0' :: hexPair c.toNat)) (String.utf8EncodeChar c) := by
  have hascii : ∀ n < 32, isAscii ('\\' :: 'u' :: '0' :: '0' :: hexPair n) = true := by decide
  have hleading : isLeading c.toNat = false := by
    simp only [isLeading, Bool.and_eq_false_iff, decide_eq_false_iff_not]
    omega
  have htrailing : isTrailing c.toNat = false := by
    simp only [isTrailing, Bool.and_eq_false_iff, decide_eq_false_iff_not]
    omega
  rw [seen_of_ascii (hascii _ h)]
  refine .single (elements_control h) fun later => ?_
  rw [join.eq_def]
  simp only [hleading, htrailing, Bool.false_eq_true, if_false, Char.ofNat_toNat]

/-- Every character is read from its written form. -/
theorem reads_escape (c : Char) : Reads (seen (escape c)) (String.utf8EncodeChar c) := by
  have hof : ∀ n, c.toNat = n → c = Char.ofNat n := by
    rintro n rfl
    exact (Char.ofNat_toNat c).symm
  rw [escape]
  -- Seven characters have escapes of their own, the other control characters a number.
  split_ifs with hquote hslash hn hr ht hb hf hcontrol
  · subst hquote
    exact reads_escaped (by decide) (by decide) rfl
  · subst hslash
    exact reads_escaped (by decide) (by decide) rfl
  · subst hn
    exact reads_escaped (by decide) (by decide) rfl
  · subst hr
    exact reads_escaped (by decide) (by decide) rfl
  · subst ht
    exact reads_escaped (by decide) (by decide) rfl
  · obtain rfl := hof 8 hb
    exact reads_escaped (by decide) (by decide) rfl
  · obtain rfl := hof 12 hf
    exact reads_escaped (by decide) (by decide) rfl
  · exact reads_control hcontrol
  · exact reads_plain (Nat.le_of_not_lt hcontrol) hquote hslash

/-- The written escapes of a text read as the text's encoding. -/
theorem reads_escapes (cs : List Char) :
    Reads (seen (cs.flatMap escape)) (Utf8.encode cs) := by
  induction cs with
  | nil => exact .nil
  | cons c cs ih =>
    rw [List.flatMap_cons, seen_append]
    exact (reads_escape c).append ih

/-! ## Quoted texts -/

/-- A quoted text is seen as its quotes around its escapes. -/
theorem seen_quote (s : String) :
    seen (quote s) = '"' :: (seen (s.toList.flatMap escape) ++ ['"']) := by
  have hquote : seen ['"'] = ['"'] := seen_of_ascii (by decide)
  rw [quote, seen_cons (by decide), seen_append, hquote]

/-- A quoted text is read up to its closing quote. -/
theorem exists_elements (s : String) (rest : List Char) :
    ∃ es, elements (seen (s.toList.flatMap escape) ++ '"' :: rest) = some (es, rest) ∧
      join es = .ok (Utf8.encode s.toList) := by
  obtain ⟨es, helements, hjoin⟩ := reads_escapes s.toList
  refine ⟨es, ?_, ?_⟩
  · rw [helements, elements, Option.map_some, List.append_nil]
  · have hall := hjoin []
    rw [List.append_nil, join, Except.map, List.append_nil] at hall
    exact hall

/-- A quoted text is read back as the text, up to its closing quote. -/
theorem scalar_quote (s : String) (rest : List Char) :
    scalar (seen (quote s) ++ rest) = (.text s, some rest) := by
  obtain ⟨es, helements, hjoin⟩ := exists_elements s rest
  have htext : textOf es = .text s := by
    rw [textOf, hjoin]
    simp only [Utf8.decode?_encode, Option.elim_some]
  rw [seen_quote, List.cons_append, List.append_assoc, List.singleton_append, scalar, helements]
  simp only [htext]

/-- Elements that join to a text's encoding name that text. -/
theorem nameOf_quote {es : List Element} {s : String} (h : join es = .ok (Utf8.encode s.toList)) :
    nameOf es = some s := by
  rw [nameOf, h]
  exact Utf8.decode?_encode s

end Json.Reader

end Geofencing
