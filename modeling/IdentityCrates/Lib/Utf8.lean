import IdentityCrates.Lib.Octets
import IdentityCrates.Lib.Text

/-!
# UTF-8

The bytes of a string of characters, and the string of a byte string: strictly (`from_utf8`) or with
every ill-formed sequence replaced by U+FFFD (`from_utf8_lossy`).  Encoding and strict decoding are
inverse to each other, which is all a format built on text needs.
-/

namespace Utf8

open Octets Text

/-- The UTF-8 bytes of a string. -/
def encode (s : Str) : Bytes := s.flatMap String.utf8EncodeChar

/-- `str::from_utf8`. -/
def decode (bs : Bytes) : Option Str := bs.toByteArray.utf8Decode?.map Array.toList

@[simp] lemma encode_nil : encode [] = [] := rfl

@[simp] lemma encode_cons (c : Char) (s : Str) :
    encode (c :: s) = String.utf8EncodeChar c ++ encode s := rfl

@[simp] lemma encode_append (s t : Str) : encode (s ++ t) = encode s ++ encode t :=
  List.flatMap_append

lemma toByteArray_encode (s : Str) : (encode s).toByteArray = s.utf8Encode := rfl

lemma toByteArray_inj {xs ys : Bytes} (h : xs.toByteArray = ys.toByteArray) : xs = ys := by
  have hdata := congrArg ByteArray.data h
  rw [List.data_toByteArray, List.data_toByteArray] at hdata
  exact congrArg Array.toList hdata

/-- A byte string decodes to the string whose encoding it is, and to no other. -/
lemma decode_eq_some {bs : Bytes} {s : Str} : decode bs = some s ↔ bs = encode s := by
  rw [decode, Option.map_eq_some_iff]
  constructor
  · rintro ⟨chars, hchars, rfl⟩
    apply toByteArray_inj
    have hsome : bs.toByteArray.utf8Decode?.isSome = true := by rw [hchars]; rfl
    have hback := ByteArray.utf8Encode_get_utf8Decode? (h := hsome)
    rw [toByteArray_encode, ← hback]
    congr 2
    simp only [hchars, Option.get_some]
  · rintro rfl
    refine ⟨s.toArray, ?_, rfl⟩
    rw [toByteArray_encode, List.utf8Decode?_utf8Encode]

@[simp] lemma decode_encode (s : Str) : decode (encode s) = some s := decode_eq_some.mpr rfl

lemma encode_inj {s t : Str} (h : encode s = encode t) : s = t := by
  have hdec := congrArg decode h
  rw [decode_encode, decode_encode] at hdec
  exact Option.some.inj hdec

/-- An ASCII character is one byte, its code. -/
lemma encode_ascii {c : Char} (h : c.utf8Size = 1) :
    String.utf8EncodeChar c = [UInt8.ofNat c.toNat] := by
  have hle : c.val ≤ 0x7f := Char.utf8Size_eq_one_iff.mp h
  have hnat : c.val.toNat ≤ 0x7f := UInt32.le_iff_toNat_le.mp hle
  rw [String.utf8EncodeChar]
  simp only [show c.val.toNat ≤ 127 from hnat, if_true]
  rfl

lemma length_encode (s : Str) : (encode s).length = byteLen s := by
  induction s with
  | nil => rfl
  | cons c s ih =>
    rw [encode_cons, List.length_append, ih, String.length_utf8EncodeChar, byteLen, byteLen,
      List.map_cons, List.sum_cons]

/-- A lead or continuation byte is no ASCII byte, and never the largest one. -/
lemma ofNat_add_mem {m k : Nat} (hk : 128 ≤ k) (h : m + k < 255) :
    128 ≤ (UInt8.ofNat (m + k)).toNat ∧ (UInt8.ofNat (m + k)).toNat < 255 := by
  rw [UInt8.toNat_ofNat', Nat.mod_eq_of_lt (by omega)]
  omega

/-- The bytes of a character: its code if it is ASCII, and no ASCII byte otherwise. -/
lemma mem_utf8EncodeChar {c : Char} {b : UInt8} (h : b ∈ String.utf8EncodeChar c) :
    (c.toNat < 128 ∧ b.toNat = c.toNat) ∨ (128 ≤ b.toNat ∧ b.toNat < 255) := by
  rw [String.utf8EncodeChar] at h
  split at h
  · rename_i hle
    rw [List.mem_singleton] at h
    subst h
    refine Or.inl ⟨Nat.lt_succ_of_le hle, ?_⟩
    rw [UInt8.toNat_ofNat', Nat.mod_eq_of_lt (by omega)]
    rfl
  · right
    split at h
    · simp only [List.mem_cons, List.not_mem_nil, or_false] at h
      rcases h with rfl | rfl <;> exact ofNat_add_mem (by decide) (by omega)
    · split at h
      · simp only [List.mem_cons, List.not_mem_nil, or_false] at h
        rcases h with rfl | rfl | rfl <;> exact ofNat_add_mem (by decide) (by omega)
      · simp only [List.mem_cons, List.not_mem_nil, or_false] at h
        rcases h with rfl | rfl | rfl | rfl <;> exact ofNat_add_mem (by decide) (by omega)

/-- An ASCII byte of an encoding is a character of the text. -/
lemma mem_of_mem_encode {b : UInt8} (hb : b.toNat < 128) {s : Str} (h : b ∈ encode s) :
    Char.ofNat b.toNat ∈ s := by
  obtain ⟨c, hc, hmem⟩ := List.mem_flatMap.mp h
  rcases mem_utf8EncodeChar hmem with ⟨-, heq⟩ | ⟨hge, -⟩
  · rw [heq, Char.ofNat_toNat]
    exact hc
  · exact absurd hb (Nat.not_lt.mpr hge)

/-- The byte `FF` occurs in no encoding. -/
lemma notMem_encode (s : Str) : (0xFF : UInt8) ∉ encode s := by
  intro hmem
  obtain ⟨c, -, hc⟩ := List.mem_flatMap.mp hmem
  have hmax : (0xFF : UInt8).toNat = 255 := rfl
  rcases mem_utf8EncodeChar hc with ⟨hlt, heq⟩ | ⟨-, hlt⟩ <;> omega

/-! ## ASCII strings -/

/-- The byte of an ASCII character. -/
def asciiByte (c : Char) : UInt8 := UInt8.ofNat c.toNat

lemma encode_of_ascii {t : Str} (h : ∀ c ∈ t, c.toNat < 128) :
    encode t = t.map asciiByte := by
  induction t with
  | nil => rfl
  | cons c t ih =>
    have hsize : c.utf8Size = 1 :=
      Char.utf8Size_eq_one_iff.mpr (Nat.le_of_lt_succ (h c List.mem_cons_self))
    rw [encode_cons, encode_ascii hsize, ih fun d hd => h d (List.mem_cons_of_mem c hd)]
    rfl

/-- A string whose encoding is ASCII is ASCII. -/
lemma ascii_of_encode {t : Str} (h : ∀ b ∈ encode t, b.toNat < 128) :
    ∀ c ∈ t, c.toNat < 128 := by
  intro c hc
  obtain ⟨b, hb⟩ := List.exists_mem_of_length_pos (l := String.utf8EncodeChar c)
    (by rw [String.length_utf8EncodeChar]; exact Char.utf8Size_pos c)
  have hlt := h b (List.mem_flatMap.mpr ⟨c, hc, hb⟩)
  rcases mem_utf8EncodeChar hb with ⟨hascii, -⟩ | ⟨hge, -⟩
  · exact hascii
  · omega

/-- `u8::is_ascii_digit`. -/
def isAsciiDigit (b : UInt8) : Bool := 0x30 ≤ b && b ≤ 0x39

/-- The bytes of a text are ASCII digits where its characters are. -/
lemma isDigit_of_encode {t : Str} (h : (encode t).all isAsciiDigit = true) :
    encode t = t.map asciiByte ∧ t.all Char.isDigit = true := by
  have hbound : ∀ b : UInt8, isAsciiDigit b = true → 48 ≤ b.toNat ∧ b.toNat ≤ 57 := by
    intro b hb
    obtain ⟨hlow, hhigh⟩ := Bool.and_eq_true_iff.mp hb
    exact ⟨UInt8.le_iff_toNat_le.mp (of_decide_eq_true hlow),
      UInt8.le_iff_toNat_le.mp (of_decide_eq_true hhigh)⟩
  have hdigits := List.all_eq_true.mp h
  have hascii : ∀ c ∈ t, c.toNat < 128 :=
    ascii_of_encode fun b hb => lt_of_le_of_lt (hbound b (hdigits b hb)).2 (by decide)
  have hmap := encode_of_ascii hascii
  refine ⟨hmap, List.all_eq_true.mpr fun c hc => ?_⟩
  have hbyte := hbound _ (hdigits (asciiByte c) (hmap ▸ List.mem_map_of_mem hc))
  have hsmall : (asciiByte c).toNat = c.toNat := by
    rw [asciiByte, UInt8.toNat_ofNat', Nat.mod_eq_of_lt (by have := hascii c hc; omega)]
  rw [hsmall] at hbyte
  simpa [Char.isDigit, UInt32.le_iff_toNat_le] using hbyte

/-- The characters come back from the bytes of an ASCII string. -/
lemma map_encode_of_ascii {t : Str} (h : ∀ c ∈ t, c.toNat < 128) :
    (encode t).map (fun b => Char.ofNat b.toNat) = t := by
  rw [encode_of_ascii h, List.map_map]
  refine (List.map_congr_left fun c hc => ?_).trans (List.map_id t)
  show Char.ofNat (UInt8.ofNat c.toNat).toNat = c
  have hc' := h c hc
  rw [UInt8.toNat_ofNat', Nat.mod_eq_of_lt (by omega), Char.ofNat_toNat]

/-! ## Lossy decoding -/

/-- `10xxxxxx`. -/
def isContinuation (b : UInt8) : Bool := 0x80 ≤ b && b ≤ 0xBF

/-- May `second` follow the first byte of a sequence of three or four? -/
def secondAllowed (first second : UInt8) : Bool :=
  if first = 0xE0 then 0xA0 ≤ second && second ≤ 0xBF
  else if first = 0xED then 0x80 ≤ second && second ≤ 0x9F
  else if first = 0xF0 then 0x90 ≤ second && second ≤ 0xBF
  else if first = 0xF4 then 0x80 ≤ second && second ≤ 0x8F
  else isContinuation second

/-- The length of the ill-formed sequence at the start, which is replaced as a whole: the longest
beginning of a well-formed one, at least one byte. -/
def invalidLength : Bytes → Nat
  | first :: second :: rest =>
    if 0xE0 ≤ first ∧ first ≤ 0xF4 ∧ secondAllowed first second then
      match rest with
      | third :: _ => if 0xF0 ≤ first ∧ isContinuation third then 3 else 2
      | [] => 2
    else 1
  | _ => 1

/-- The character a byte string starts with. -/
def decodeChar (bs : Bytes) : Option Char := (bs.take 4).toByteArray.utf8DecodeChar? 0

/-- `lossy` on at most `fuel` sequences. -/
def lossyAux : Nat → Bytes → Str
  | 0, _ => []
  | _, [] => []
  | fuel + 1, bs =>
    match decodeChar bs with
    | some c => c :: lossyAux fuel (bs.drop c.utf8Size)
    | none => '\uFFFD' :: lossyAux fuel (bs.drop (invalidLength bs))

/-- `String::from_utf8_lossy`. -/
def lossy (bs : Bytes) : Str := lossyAux bs.length bs

/-! ## What is wrong with a byte string -/

/-- `Utf8Error`: how many bytes are well formed, and the length of the ill-formed sequence behind
them, unless the bytes end in the middle of a sequence. -/
structure Utf8Error where
  validUpTo : Nat
  errorLen : Option Nat
  deriving DecidableEq, Repr

/-- Can a sequence of more than one byte start like that? -/
def isLead (b : UInt8) : Bool := 0xC2 ≤ b && b ≤ 0xF4

/-- The length of the characters that the bytes start with, of `fuel` characters at most. -/
def validUpTo : Nat → Bytes → Nat
  | 0, _ => 0
  | fuel + 1, bs =>
    match decodeChar bs with
    | some c => c.utf8Size + validUpTo fuel (bs.drop c.utf8Size)
    | none => 0

/-- The error of `str::from_utf8`, for bytes that do not decode. -/
def errorOf (bs : Bytes) : Utf8Error :=
  let valid := validUpTo bs.length bs
  let rest := bs.drop valid
  let len := invalidLength rest
  ⟨valid, if rest.length = len ∧ rest.head?.any isLead then none else some len⟩

/-- The `Display` text of a `Utf8Error`. -/
def Utf8Error.text (e : Utf8Error) : String :=
  match e.errorLen with
  | some len => s!"invalid utf-8 sequence of {len} bytes from index {e.validUpTo}"
  | none => s!"incomplete utf-8 byte sequence from index {e.validUpTo}"

end Utf8
