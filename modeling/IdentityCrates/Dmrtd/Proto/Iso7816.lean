import IdentityCrates.Lib.Outcome
import IdentityCrates.Dmrtd.Utils
import IdentityCrates.Lib.Octets

/-!
# ISO/IEC 7816-4 command and response APDUs

The APDU types of `proto/iso7816`, with their wire forms.  `CommandApdu.parse` is the card's side
of the wire: it is not in the source, and states what ISO 7816-4 makes of a byte string, so that
`CommandApdu.parse_toBytes` can say that the terminal's serialisation is read back as it was meant.
-/

namespace Dmrtd

open Rust Octets

/-! ## Constants -/

namespace Cla
/-- No secure messaging. -/
def noSm : UInt8 := 0x00
/-- SM, header authenticated. -/
def smHeaderAuthn : UInt8 := 0x0C
/-- Command chaining, not the last command of the chain. -/
def commandChaining : UInt8 := 0x10
end Cla

namespace Ins
def manageSecurityEnvironment : UInt8 := 0x22
def getChallenge : UInt8 := 0x84
def generalAuthenticate : UInt8 := 0x86
def externalAuthenticate : UInt8 := 0x82
def internalAuthenticate : UInt8 := 0x88
def readBinary : UInt8 := 0xB0
/-- READ BINARY with odd INS, for offsets beyond 32 767 bytes. -/
def readBinaryExt : UInt8 := 0xB1
def selectFile : UInt8 := 0xA4
end Ins

namespace SelectFileP1
/-- Select MF, DF or EF. -/
def byId : UInt8 := 0x00
/-- Direct selection by DF name. -/
def byDfName : UInt8 := 0x04
end SelectFileP1

namespace SelectFileP2
/-- No response data. -/
def noResponseData : UInt8 := 0x0C
end SelectFileP2

/-! ## Command APDUs -/

/-- `CommandApduError`. -/
inductive CommandApduError where
  | dataTooLong (n : Nat)
  | invalidNe (n : Nat)
  deriving DecidableEq, Repr

/-- The `Display` text of a `CommandApduError`. -/
def CommandApduError.text : CommandApduError → String
  | .dataTooLong n => s!"Command APDU data length {n} exceeds maximum of 65535 bytes"
  | .invalidNe n => s!"Command APDU ne value {n} exceeds maximum of 65536"

/-- `CommandApdu`.  The fields are public in the source, so nothing is promised about them:
secure messaging replaces the data field after construction. -/
structure CommandApdu where
  cla : UInt8
  ins : UInt8
  p1 : UInt8
  p2 : UInt8
  data : Option Bytes
  ne : Nat
  deriving DecidableEq, Repr

namespace CommandApdu

/-- `CommandApdu::new`. -/
def new (cla ins p1 p2 : UInt8) (data : Option Bytes) (ne : Nat) :
    Outcome CommandApduError CommandApdu :=
  let build : Outcome CommandApduError CommandApdu :=
    if ne > 65536 then .err (.invalidNe ne) else .ok ⟨cla, ins, p1, p2, data, ne⟩
  match data with
  | some d => if d.length > 0xFFFF then .err (.dataTooLong d.length) else build
  | none => build

/-- `raw_header`. -/
def rawHeader (c : CommandApdu) : Bytes := [c.cla, c.ins, c.p1, c.p2]

/-- The bytes of the data field; none and empty are the same on the wire. -/
def body (c : CommandApdu) : Bytes := c.data.getD []

/-- The Le field of the extended form: only 65536 becomes the `0000` sentinel. -/
def extendedLe (ne : Nat) : Bytes := toBE 2 (if ne = 65536 then 0 else ne)

/-- The Le field of the short form: 256 becomes the `00` sentinel. -/
def shortLe (ne : Nat) : Bytes := [if ne = 256 then 0 else UInt8.ofNat ne]

/-- `to_bytes`. -/
def toBytes (c : CommandApdu) : Bytes :=
  let dataLen := c.body.length
  let hasData := !c.body.isEmpty
  let extended := decide (dataLen > 255) || decide (c.ne > 256)
  if hasData then
    let lc := if extended then 0x00 :: toBE 2 dataLen else [UInt8.ofNat dataLen]
    let le := if c.ne > 0 then (if extended then extendedLe c.ne else shortLe c.ne) else []
    c.rawHeader ++ lc ++ c.body ++ le
  else
    let le :=
      if c.ne > 0 then (if extended then 0x00 :: extendedLe c.ne else shortLe c.ne) else []
    c.rawHeader ++ le

/-- Within the limits `CommandApdu::new` checks. -/
def InLimits (c : CommandApdu) : Prop := c.body.length ≤ 0xFFFF ∧ c.ne ≤ 65536

instance (c : CommandApdu) : Decidable c.InLimits := inferInstanceAs (Decidable (_ ∧ _))

lemma new_eq_ok {cla ins p1 p2 : UInt8} {data : Option Bytes} {ne : Nat} {c : CommandApdu} :
    new cla ins p1 p2 data ne = .ok c ↔ c = ⟨cla, ins, p1, p2, data, ne⟩ ∧ c.InLimits := by
  rcases data with _ | d
  · by_cases hne : ne > 65536
    · simp only [new, if_pos hne, InLimits, reduceCtorEq, false_iff]
      rintro ⟨rfl, -, h⟩
      simp only at h
      omega
    · simp only [new, if_neg hne, InLimits, Outcome.ok.injEq]
      constructor
      · rintro rfl
        exact ⟨rfl, by simp [body], by simp only; omega⟩
      · rintro ⟨rfl, -⟩
        rfl
  · by_cases hd : d.length > 0xFFFF
    · simp only [new, if_pos hd, InLimits, reduceCtorEq, false_iff]
      rintro ⟨rfl, h, -⟩
      simp only [body, Option.getD_some] at h
      omega
    · by_cases hne : ne > 65536
      · simp only [new, if_neg hd, if_pos hne, InLimits, reduceCtorEq, false_iff]
        rintro ⟨rfl, -, h⟩
        simp only at h
        omega
      · simp only [new, if_neg hd, if_neg hne, InLimits, Outcome.ok.injEq]
        constructor
        · rintro rfl
          exact ⟨rfl, by simp only [body, Option.getD_some]; omega, by simp only; omega⟩
        · rintro ⟨rfl, -⟩
          rfl

/-! ## The card's side of the wire -/

/-- What a card reads from a command: the header, the data field and the expected length. -/
structure Wire where
  header : Bytes
  body : Bytes
  ne : Nat
  deriving DecidableEq, Repr

/-- Le as the card reads it: zero stands for the maximum of the form used. -/
def readLe (sentinel : Nat) (le : Bytes) : Nat :=
  if ofBE le = 0 then sentinel else ofBE le

/-- A command with an extended length field, after the header and the `00` marker. -/
def parseExtended (header rest : Bytes) : Option Wire :=
  match rest with
  | hi :: lo :: rest =>
    let lc := ofBE [hi, lo]
    if rest = [] then some ⟨header, [], readLe 65536 [hi, lo]⟩
    else if rest.length = lc then some ⟨header, rest, 0⟩
    else if rest.length = lc + 2 then some ⟨header, rest.take lc, readLe 65536 (rest.drop lc)⟩
    else none
  | _ => none

/-- The seven cases of ISO 7816-4. -/
def parse : Bytes → Option Wire
  | cla :: ins :: p1 :: p2 :: rest =>
    let header := [cla, ins, p1, p2]
    match rest with
    | [] => some ⟨header, [], 0⟩
    | [le] => some ⟨header, [], readLe 256 [le]⟩
    | lc :: rest =>
      if lc = 0 then parseExtended header rest
      else if rest.length = lc.toNat then some ⟨header, rest, 0⟩
      else if rest.length = lc.toNat + 1 then
        some ⟨header, rest.take lc.toNat, readLe 256 (rest.drop lc.toNat)⟩
      else none
  | _ => none

lemma readLe_extendedLe {ne : Nat} (hpos : 0 < ne) (hle : ne ≤ 65536) :
    readLe 65536 (extendedLe ne) = ne := by
  unfold readLe extendedLe
  by_cases h : ne = 65536
  · rw [if_pos h, ofBE_toBE, Nat.zero_mod, if_pos rfl, h]
  · rw [if_neg h, ofBE_toBE, Nat.mod_eq_of_lt (by omega), if_neg (by omega)]

lemma readLe_shortLe {ne : Nat} (hpos : 0 < ne) (hle : ne ≤ 256) :
    readLe 256 (shortLe ne) = ne := by
  unfold readLe shortLe
  by_cases h : ne = 256
  · subst h
    rfl
  · have hmod : ne % 2 ^ 8 = ne := by omega
    rw [if_neg h, ofBE_singleton, UInt8.toNat_ofNat', hmod, if_neg (by omega)]

@[simp] lemma length_extendedLe (ne : Nat) : (extendedLe ne).length = 2 := by simp [extendedLe]

@[simp] lemma length_shortLe (ne : Nat) : (shortLe ne).length = 1 := rfl

/-- The card reads the optional Le after the data of an extended command. -/
lemma parseExtended_data (header body : Bytes) {ne : Nat} (hne : body ≠ [])
    (hlen : body.length ≤ 0xFFFF) (hle : ne ≤ 65536) :
    parseExtended header (toBE 2 body.length ++ (body ++ if ne > 0 then extendedLe ne else [])) =
      some ⟨header, body, ne⟩ := by
  have hlc : ofBE [UInt8.ofNat (body.length / 256), UInt8.ofNat body.length] = body.length := by
    rw [← toBE_two, ofBE_toBE, Nat.mod_eq_of_lt (by omega)]
  rw [toBE_two]
  simp only [List.cons_append, List.nil_append, parseExtended, hlc]
  by_cases hpos : ne > 0
  · rw [if_pos hpos, if_neg (by simp [hne]), if_neg (by simp), if_pos (by simp),
      List.take_left' rfl, List.drop_left' rfl, readLe_extendedLe hpos hle]
  · obtain rfl : ne = 0 := by omega
    simp [hne]

/-- The terminal's serialisation is read back by the card as it was meant. -/
theorem parse_toBytes {c : CommandApdu} (h : c.InLimits) :
    parse c.toBytes = some ⟨c.rawHeader, c.body, c.ne⟩ := by
  obtain ⟨hlen, hne⟩ := h
  by_cases hbody : c.body = []
  · -- no data field: cases 1 and 2
    by_cases hpos : c.ne > 0
    · by_cases hext : c.ne > 256
      · have hnil : ∀ x y : UInt8, toBE 2 (if c.ne = 65536 then 0 else c.ne) = [x, y] →
            readLe 65536 [x, y] = c.ne := by
          intro x y hxy
          rw [← hxy]
          exact readLe_extendedLe hpos hne
        have hread := hnil _ _ (toBE_two _)
        simp only [toBytes, hbody, hpos, hext, rawHeader, extendedLe, toBE_two, parse,
          parseExtended, hread, List.length_nil, List.isEmpty_nil, Bool.not_true, Bool.false_eq_true,
          if_true, if_false, gt_iff_lt, decide_true, Bool.or_true, List.cons_append, List.nil_append]
      · have hread := readLe_shortLe hpos (by omega)
        simp only [shortLe] at hread
        simp only [toBytes, hbody, hpos, hext, rawHeader, shortLe, parse, hread, List.length_nil,
          List.isEmpty_nil, Bool.not_true, Bool.false_eq_true, if_true, if_false, gt_iff_lt,
          Nat.not_lt_zero, decide_false, Bool.or_false, List.cons_append, List.nil_append]
    · obtain hz : c.ne = 0 := by omega
      simp [toBytes, hbody, hz, rawHeader, parse]
  · have hisE : c.body.isEmpty = false := by simpa using hbody
    have hbpos : 0 < c.body.length := List.length_pos_iff.mpr hbody
    by_cases hext : (decide (c.body.length > 255) || decide (c.ne > 256)) = true
    · -- extended: cases 3e and 4e
      have hparse := parseExtended_data c.rawHeader c.body hbody hlen hne
      simp only [toBytes, hisE, hext, Bool.not_false, if_true]
      rw [toBE_two] at hparse ⊢
      simp only [rawHeader, List.cons_append, List.nil_append, parse] at hparse ⊢
      simpa using hparse
    · -- short: cases 3s and 4s
      simp only [Bool.or_eq_true, decide_eq_true_eq, not_or, not_lt] at hext
      obtain ⟨hs, hn⟩ := hext
      have hlc : (UInt8.ofNat c.body.length).toNat = c.body.length := by
        rw [UInt8.toNat_ofNat']
        omega
      have hlc0 : ¬ UInt8.ofNat c.body.length = 0 := by
        intro h0
        have hz := congrArg UInt8.toNat h0
        rw [hlc, UInt8.toNat_zero] at hz
        omega
      obtain ⟨b, bs, hb⟩ : ∃ b bs, c.body = b :: bs := List.exists_cons_of_ne_nil hbody
      have hextf : (decide (c.body.length > 255) || decide (c.ne > 256)) = false := by
        simp only [Bool.or_eq_false_iff, decide_eq_false_iff_not]
        omega
      have hparse : ∀ le : Bytes,
          parse (c.rawHeader ++ [UInt8.ofNat c.body.length] ++ c.body ++ le) =
            if (c.body ++ le).length = c.body.length then some ⟨c.rawHeader, c.body ++ le, 0⟩
            else if (c.body ++ le).length = c.body.length + 1 then
              some ⟨c.rawHeader, (c.body ++ le).take c.body.length,
                readLe 256 ((c.body ++ le).drop c.body.length)⟩
            else none := by
        intro le
        rw [← hlc]
        conv_lhs => rw [hlc]
        rw [hb] at hlc hlc0 ⊢
        simp only [rawHeader, List.cons_append, List.nil_append, parse, hlc0, if_false]
      simp only [toBytes, hisE, hextf, Bool.not_false, if_true, Bool.false_eq_true, if_false]
      rw [hparse]
      by_cases hpos : c.ne > 0
      · rw [if_pos hpos, if_neg (by simp), if_pos (by simp), List.take_left' rfl,
          List.drop_left' rfl, readLe_shortLe hpos (by omega)]
      · have hz : c.ne = 0 := by omega
        simp [hz]

end CommandApdu

/-! ## Status words and response APDUs -/

/-- `ResponseApduError`. -/
inductive ResponseApduError where
  | invalidLength
  | dataTooSmall
  | offsetOutOfBounds
  deriving DecidableEq, Repr

/-- The `Display` text of a `ResponseApduError`. -/
def ResponseApduError.text : ResponseApduError → String
  | .invalidLength => "Invalid raw response APDU length"
  | .dataTooSmall => "Argument length too small"
  | .offsetOutOfBounds => "Argument out of bounds"

/-- `StatusWord`. -/
structure StatusWord where
  sw1 : UInt8
  sw2 : UInt8
  deriving DecidableEq, Repr

namespace StatusWord

/-- `StatusWord::SUCCESS`, 9000. -/
def success : StatusWord := ⟨0x90, 0x00⟩

/-- `StatusWord::from_bytes`: the two bytes at `offset`. -/
def fromBytes (data : Bytes) (offset : Nat) : Outcome ResponseApduError StatusWord :=
  if data.length < 2 then .err .dataTooSmall
  else if data.length - offset < 2 then .err .offsetOutOfBounds
  else .ok ⟨data.getD offset 0, data.getD (offset + 1) 0⟩

/-- `value`. -/
def value (sw : StatusWord) : Nat := sw.sw1.toNat <<< 8 ||| sw.sw2.toNat

/-- `to_bytes`. -/
def toBytes (sw : StatusWord) : Bytes := [sw.sw1, sw.sw2]

/-- `SW1_SUCCESS_WITH_REMAINING_BYTES`. -/
def sw1SuccessWithRemainingBytes : UInt8 := 0x61

/-- `is_success`: 9000, or 61xx with bytes still available. -/
def isSuccess (sw : StatusWord) : Bool :=
  decide (sw = success) || sw.sw1 == sw1SuccessWithRemainingBytes

lemma isSuccess_iff {sw : StatusWord} :
    sw.isSuccess = true ↔ sw = success ∨ sw.sw1 = sw1SuccessWithRemainingBytes := by
  simp [isSuccess]

/-- The `Display` text of a `StatusWord`. -/
def text (sw : StatusWord) : String := "sw=" ++ upperHex 4 sw.value

@[simp] lemma fromBytes_zero (a b : UInt8) (rest : Bytes) :
    fromBytes (a :: b :: rest) 0 = .ok ⟨a, b⟩ := by
  have hlen : ¬ (a :: b :: rest).length < 2 := by
    simp only [List.length_cons]
    omega
  rw [fromBytes, if_neg hlen, Nat.sub_zero, if_neg hlen]
  rfl

/-- `description`, with its misspellings; the status word itself where there is none. -/
def description (sw : StatusWord) : String :=
  match sw.sw1.toNat, sw.sw2.toNat with
  | 0x62, 0x00 => "No information given"
  | 0x62, 0x81 => "Part of returned data my be corrupted"
  | 0x62, 0x82 => "End of file reached before reading Le bytes"
  | 0x62, 0x83 => "Selected file invalidated"
  | 0x62, 0x84 => "FCI not formatted according to 5.1.5"
  | 0x63, 0x00 => "The protocol (step) failed."
  | 0x67, 0x00 => "Wrong length (e.g. wrong Le field)"
  | 0x68, 0x00 => "Functions in CLA not support"
  | 0x68, 0x81 => "Logical channel not supported"
  | 0x68, 0x82 => "Secure messaging not supported"
  | 0x69, 0x00 => "Command not allowed"
  | 0x69, 0x81 => "Command incompatible with file structure"
  | 0x69, 0x82 => "Security status not satisfied"
  | 0x69, 0x83 => "Authentication method blocked"
  | 0x69, 0x84 => "Referenced data invalidated"
  | 0x69, 0x85 => "Conditions of use not satisfied"
  | 0x69, 0x86 => "Command not allowed (no current EF)"
  | 0x69, 0x87 => "Expected SM data objects missing"
  | 0x69, 0x88 => "SM data objects incorrect"
  | 0x6A, 0x00 => "Wrong parameter(s) P1-P2"
  | 0x6A, 0x80 => "Incorrect parameters in the data field"
  | 0x6A, 0x81 => "Function not supported"
  | 0x6A, 0x82 => "File not found"
  | 0x6A, 0x83 => "Record not found"
  | 0x6A, 0x84 => "Not enough memory space in the file"
  | 0x6A, 0x85 => "Lc inconsistent with TLV structure"
  | 0x6A, 0x86 => "Incorrect parameters P1-P2"
  | 0x6A, 0x87 => "Lc inconsistent with P1-P2"
  | 0x6A, 0x88 => "Referenced data not found"
  | 0x6B, 0x00 => "Wrong parameter(s) P1-P2"
  | 0x6D, 0x00 => "Instruction code not supported or invalid"
  | 0x6E, 0x00 => "Class not supported"
  | 0x6F, 0x00 => "No precise diagnosis"
  | 0x90, 0x00 => "Success"
  | 0x6C, exactLength => s!"Wrong length (exact length: {exactLength})"
  | 0x61, numBytes => s!"{numBytes} byte(s) are still available"
  | _, _ => sw.text

end StatusWord

/-- `ResponseApdu`: a status word and an optional body. -/
structure ResponseApdu where
  status : StatusWord
  data : Option Bytes
  deriving DecidableEq, Repr

namespace ResponseApdu

/-- `ResponseApdu::from_bytes`: the last two bytes are the status word, the rest is the body. -/
def fromBytes (apduBytes : Bytes) : Outcome ResponseApduError ResponseApdu :=
  if apduBytes.length < 2 then .err .invalidLength
  else do
    let status ← StatusWord.fromBytes apduBytes (apduBytes.length - 2)
    let data :=
      if apduBytes.length > 2 then some (apduBytes.take (apduBytes.length - 2)) else none
    return ⟨status, data⟩

/-- `to_bytes`. -/
def toBytes (r : ResponseApdu) : Bytes := r.data.getD [] ++ r.status.toBytes

/-- A body and a status word on the wire parse as such. -/
lemma fromBytes_append (body : Bytes) (sw : StatusWord) :
    fromBytes (body ++ sw.toBytes) = .ok ⟨sw, if body = [] then none else some body⟩ := by
  have hlen : (body ++ sw.toBytes).length = body.length + 2 := by simp [StatusWord.toBytes]
  have h0 : (body ++ sw.toBytes).getD body.length 0 = sw.sw1 := by
    simp [StatusWord.toBytes, List.getD_eq_getElem?_getD]
  have h1 : (body ++ sw.toBytes).getD (body.length + 1) 0 = sw.sw2 := by
    simp [StatusWord.toBytes, List.getD_eq_getElem?_getD]
  have htake : (body ++ sw.toBytes).take body.length = body := List.take_left' rfl
  rw [fromBytes, if_neg (by omega), StatusWord.fromBytes, if_neg (by omega), if_neg (by omega)]
  simp only [hlen, Nat.add_sub_cancel, h0, h1, htake, Outcome.ok_bind, Outcome.pure_eq]
  by_cases hb : body = []
  · simp [hb]
  · have hpos : 0 < body.length := List.length_pos_iff.mpr hb
    simp [hb, show body.length + 2 > 2 by omega]

/-- Every byte string that parses is a body followed by a status word. -/
lemma fromBytes_eq_ok {bs : Bytes} {r : ResponseApdu} (h : fromBytes bs = .ok r) :
    ∃ body, bs = body ++ r.status.toBytes ∧ r.data = if body = [] then none else some body := by
  by_cases hlen : bs.length < 2
  · simp [fromBytes, hlen] at h
  obtain ⟨body, a, b, rfl⟩ : ∃ body a b, bs = body ++ [a, b] := by
    refine ⟨bs.take (bs.length - 2), ?_⟩
    have hd : (bs.drop (bs.length - 2)).length = 2 := by
      rw [List.length_drop]
      omega
    match hab : bs.drop (bs.length - 2), hd with
    | [a, b], _ => exact ⟨a, b, by rw [← hab, List.take_append_drop]⟩
  have hpar := fromBytes_append body ⟨a, b⟩
  rw [StatusWord.toBytes] at hpar
  obtain rfl := Outcome.ok.inj (hpar.symm.trans h)
  exact ⟨body, rfl, rfl⟩

lemma fromBytes_ne_panic (bs : Bytes) : fromBytes bs ≠ .panic := by
  by_cases hlen : bs.length < 2
  · simp [fromBytes, hlen]
  · have hstatus : StatusWord.fromBytes bs (bs.length - 2) =
        .ok ⟨bs.getD (bs.length - 2) 0, bs.getD (bs.length - 2 + 1) 0⟩ := by
      rw [StatusWord.fromBytes, if_neg hlen, if_neg (by omega)]
    simp [fromBytes, hlen, hstatus]

end ResponseApdu

end Dmrtd
