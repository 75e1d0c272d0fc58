import Geofencing.Token.Base64
import Mathlib.Data.List.Basic

/-!
# Bytes in Base64 and back

Bytes are written in the URL alphabet and read in it, and what is read is what was written:
`Base64.decode_encode`. Bytes and symbols are seen as numbers in between, where each group of at
most three bytes is cut into at most four numbers of six bits and put together again.
-/

namespace Geofencing.Base64

/-! ## Groups of bits -/

/-- Bytes are cut into numbers of six bits. -/
theorem sextets_lt {ns : List Nat} (h : ∀ n ∈ ns, n < 256) : ∀ m ∈ sextets ns, m < 64 := by
  induction ns using sextets.induct with
  | case1 a b c rest ih =>
    simp only [List.forall_mem_cons] at h
    obtain ⟨ha, hb, hc, hrest⟩ := h
    simp only [sextets, List.forall_mem_cons]
    exact ⟨by omega, by omega, by omega, by omega, ih hrest⟩
  | case2 a b =>
    simp only [List.forall_mem_cons] at h
    simp only [sextets, List.forall_mem_cons]
    exact ⟨by omega, by omega, by omega, nofun⟩
  | case3 a =>
    simp only [List.forall_mem_cons] at h
    simp only [sextets, List.forall_mem_cons]
    exact ⟨by omega, by omega, nofun⟩
  | case4 => nofun

/-- The groups are put together as they were cut. The bits that a short group leaves unused are
zero, which is what makes its text canonical. -/
theorem octets_sextets {ns : List Nat} (h : ∀ n ∈ ns, n < 256) :
    octets (sextets ns) = some ns := by
  -- Groups of three bytes fill all bits; after one or two bytes some are left, which are zero.
  induction ns using sextets.induct with
  | case1 a b c rest ih =>
    simp only [List.forall_mem_cons] at h
    obtain ⟨ha, hb, hc, hrest⟩ := h
    rw [sextets, octets, ih hrest]
    simp only [Option.map_some, Option.some.injEq, List.cons.injEq, and_true]
    omega
  | case2 a b =>
    simp only [List.forall_mem_cons] at h
    have hunused : b % 16 * 4 % 4 = 0 := by omega
    rw [sextets, octets, if_pos hunused]
    simp only [Option.some.injEq, List.cons.injEq, and_true]
    omega
  | case3 a =>
    simp only [List.forall_mem_cons] at h
    have hunused : a % 4 * 16 % 16 = 0 := by omega
    rw [sextets, octets, if_pos hunused]
    simp only [Option.some.injEq, List.cons.injEq, and_true]
    omega
  | case4 => rfl

/-! ## Symbols -/

/-- Every number of six bits is read from its symbol. -/
theorem number?_symbol : ∀ n < 64, Alphabet.url.number? (Alphabet.url.symbol n) = some n := by
  decide

theorem numbers?_map_symbol {ns : List Nat} (h : ∀ n ∈ ns, n < 64) :
    Alphabet.url.numbers? (ns.map Alphabet.url.symbol) = some ns := by
  induction ns with
  | nil => rfl
  | cons n rest ih =>
    obtain ⟨hn, hrest⟩ := List.forall_mem_cons.1 h
    rw [List.map_cons, Alphabet.numbers?, number?_symbol n hn]
    simp only [ih hrest, Option.map_some]

/-! ## Texts -/

variable {bytes : Bytes}

theorem map_toNat_lt : ∀ n ∈ bytes.map UInt8.toNat, n < 256 := by
  intro n hn
  obtain ⟨b, -, rfl⟩ := List.mem_map.1 hn
  exact b.toNat_lt

/-- Bytes are written with the symbols of the alphabet only. -/
theorem exists_of_mem_encode {c : Char} (h : c ∈ encode bytes) :
    ∃ n < 64, Alphabet.url.symbol n = c := by
  obtain ⟨n, hn, hsymbol⟩ := List.mem_map.1 h
  exact ⟨n, sextets_lt map_toNat_lt n hn, hsymbol⟩

/-- Reading what was written gives the bytes back. -/
theorem decode_encode (bytes : Bytes) : decode (encode bytes) = some bytes := by
  have hbytes : ∀ n ∈ bytes.map UInt8.toNat, n < 256 := map_toNat_lt
  rw [decode, decodeWith, encode, numbers?_map_symbol (sextets_lt hbytes), Option.bind_some,
    octets_sextets hbytes, Option.map_some, List.map_map]
  simp [Function.comp_def]

end Geofencing.Base64
