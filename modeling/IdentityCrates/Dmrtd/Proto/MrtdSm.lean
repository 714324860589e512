import IdentityCrates.Dmrtd.Crypto.Iso9797
import IdentityCrates.Dmrtd.Proto.Sm

/-!
# The ICAO 9303 secure messaging handler

`mrtd_sm.rs`.  `MrtdSM` pairs a cipher with a send sequence counter.  `protect` advances the
counter, encrypts the data field, and authenticates header and data objects under the new counter
value; `unprotect` does the reverse for a response.

Everything after the counter step is a function of the handler as it then stands, so both methods
are an update of the counter followed by a lifted pure computation (`protectBody`,
`unprotectBody`).  A failure anywhere in that computation leaves the counter advanced.
-/

namespace Dmrtd

open Rust Octets

/-- `MrtdSM`. -/
structure MrtdSM where
  cipher : SmCipher
  ssc : Ssc

namespace MrtdSM

/-- `block_len`. -/
def blockLen (sm : MrtdSM) : Outcome SmError Nat :=
  match sm.cipher.cipherAlgorithm with
  | .aes => .ok 16
  | .deSede => .ok 8

/-- An ISO 9797-1 padding error as the handler reports it. -/
def padError (e : Iso9797Error) : SmError := ⟨s!"ISO 9797 pad: {e.text}"⟩

/-- An ISO 9797-1 unpadding error as the handler reports it. -/
def unpadError (e : Iso9797Error) : SmError := ⟨s!"ISO 9797 unpad: {e.text}"⟩

/-- `generate_data_do`: `DO'85'` for odd-INS READ BINARY, else `DO'87'`, and nothing at all without
data. -/
def generateDataDo (sm : MrtdSM) (cmd : CommandApdu) : Outcome SmError Bytes :=
  match cmd.data with
  | some data =>
    if !data.isEmpty then do
      let blockLen ← sm.blockLen
      let padded ← (Iso9797.pad data blockLen).mapErr padError
      let edata ← sm.cipher.encrypt padded (some sm.ssc)
      if cmd.ins = Ins.readBinaryExt then Sm.do85 edata else Sm.do87 edata true
    else .ok []
  | none => .ok []

/-- `generate_m`. -/
def generateM (sm : MrtdSM) (cmd : CommandApdu) (dataDo do97 : Bytes) : Outcome SmError Bytes := do
  let blockLen ← sm.blockLen
  let paddedHeader ← (Iso9797.pad cmd.rawHeader blockLen).mapErr padError
  return paddedHeader ++ dataDo ++ do97

/-- `generate_n`. -/
def generateN (sm : MrtdSM) (m : Bytes) : Outcome SmError Bytes := do
  let blockLen ← sm.blockLen
  (Iso9797.pad (sm.ssc.toBytes ++ m) blockLen).mapErr padError

/-- `generate_k`. -/
def generateK (sm : MrtdSM) (data : Bytes) : Outcome SmError Bytes := do
  let blockLen ← sm.blockLen
  (Iso9797.pad (sm.ssc.toBytes ++ data) blockLen).mapErr padError

/-- The cipher input of a data object and whether the plaintext is padded.  `DO'87'` says so in its
padding-content indicator; `DO'85'` has none and is always padded. -/
def cipherInput (dtv : DecodedTv) : Outcome SmError (Bool × Bytes) :=
  if dtv.tag.value = Sm.tagDo87 then
    match dtv.value with
    | 0x01 :: rest => .ok (true, rest)
    | 0x02 :: rest => .ok (false, rest)
    | other :: _ =>
      .err ⟨s!"Invalid DO'87' padding-content indicator: 0x{upperHex 2 other.toNat}"⟩
    | [] => .panic
  else .ok (true, dtv.value)

/-- `decrypt_data_do`. -/
def decryptDataDo (sm : MrtdSM) (dtv : Option DecodedTv) : Outcome SmError (Option Bytes) :=
  match dtv with
  | none => .ok none
  | some dtv =>
    if dtv.value.isEmpty then .ok none
    else if dtv.tag.value ≠ Sm.tagDo85 ∧ dtv.tag.value ≠ Sm.tagDo87 then
      .err ⟨s!"Can't decrypt invalid data DO with tag={upperHex 1 dtv.tag.value}"⟩
    else do
      let (padded, input) ← cipherInput dtv
      let data ← sm.cipher.decrypt input (some sm.ssc)
      if padded then do
        let blockLen ← sm.blockLen
        let data ← (Iso9797.unpad data blockLen).mapErr unpadError
        return some data
      else return some data

/-- `parse_data_do`. -/
def parseDataDo (rapdu : ResponseApdu) : Outcome SmError (Option DecodedTv) :=
  match rapdu.data with
  | none => .ok none
  | some [] => .ok none
  | some (first :: rest) =>
    if first.toNat ≠ Sm.tagDo85 ∧ first.toNat ≠ Sm.tagDo87 then .ok none
    else do
      let decoded ← (Tlv.decode (first :: rest)).mapErr
        fun e => ⟨s!"Invalid data DO: {e.text}"⟩
      return some decoded

/-- `parse_do99` and `parse_do8e`: the object with tag `tag` at `offset`. -/
def parseDoAt (tag : Nat) (missing missingOrOffset : String) (invalid : TlvError → String)
    (rapdu : ResponseApdu) (offset : Nat) : Outcome SmError DecodedTv := do
  let data ← Outcome.ofOption ⟨missing⟩ rapdu.data
  if offset ≥ data.length ∨ (data.getD offset 0).toNat ≠ tag then .err ⟨missingOrOffset⟩
  else (Tlv.decode (data.drop offset)).mapErr fun e => ⟨invalid e⟩

/-- `parse_do99`. -/
def parseDo99 (rapdu : ResponseApdu) (offset : Nat) : Outcome SmError DecodedTv :=
  parseDoAt Sm.tagDo99 "Missing DO'99' in response APDU"
    "Missing DO'99' in response APDU or invalid offset" (fun e => s!"Invalid DO99: {e.text}")
    rapdu offset

/-- `parse_do8e`. -/
def parseDo8e (rapdu : ResponseApdu) (offset : Nat) : Outcome SmError DecodedTv :=
  parseDoAt Sm.tagDo8E "Missing DO'8E' in response APDU"
    "Missing DO'8E' in response APDU or invalid offset" (fun e => s!"Invalid DO8E: {e.text}")
    rapdu offset

/-- `mask_cla`. -/
def maskCla (cla : UInt8) : UInt8 := cla ||| Cla.smHeaderAuthn

/-- `protect` after the counter has been advanced. -/
def protectBody (sm : MrtdSM) (cmd : CommandApdu) : Outcome SmError CommandApdu := do
  let masked := { cmd with cla := maskCla cmd.cla }
  let dataDo ← sm.generateDataDo masked
  let do97 ← Sm.do97 masked.ne
  let m ← sm.generateM masked dataDo do97
  let n ← sm.generateN m
  let cc ← sm.cipher.mac n
  let do8e ← Sm.do8e cc
  return { masked with data := some (dataDo ++ do97 ++ do8e), ne := 256 }

/-- `SecureMessaging::protect`. -/
def protect (cmd : CommandApdu) : Proc MrtdSM SmError CommandApdu := do
  Proc.modify fun sm => { sm with ssc := sm.ssc.increment }
  let sm ← Proc.get
  Proc.lift (sm.protectBody cmd)

/-- `unprotect` after the counter has been advanced. -/
def unprotectBody (sm : MrtdSM) (rapdu : ResponseApdu) : Outcome SmError ResponseApdu := do
  let dataDo ← parseDataDo rapdu
  let dataDoLen := dataDo.elim 0 fun d => d.encodedLen
  let do99 ← parseDo99 rapdu dataDoLen
  let do8eStart := dataDoLen + do99.encodedLen
  let do8e ← parseDo8e rapdu do8eStart
  let body ← Outcome.ofOption ⟨"Missing response data"⟩ rapdu.data
  let k ← sm.generateK (body.take do8eStart)
  let cc ← sm.cipher.mac k
  if cc ≠ do8e.value then .err ⟨"Invalid MAC of response APDU"⟩
  else do
    let data ← sm.decryptDataDo dataDo
    let status ← (StatusWord.fromBytes do99.value 0).mapErr
      fun e => ⟨s!"Invalid SW in DO'99': {e.text}"⟩
    return ⟨status, data⟩

/-- Does the response carry a body to verify? -/
def hasBody (rapdu : ResponseApdu) : Bool := !(rapdu.data.getD []).isEmpty

/-- `SecureMessaging::unprotect`.  A bare status word carries no MAC: a bare success is refused, any
other bare status is handed up as it is, and the counter stays where it is. -/
def unprotect (rapdu : ResponseApdu) : Proc MrtdSM SmError ResponseApdu :=
  if !hasBody rapdu then
    if rapdu.status = StatusWord.success then
      Proc.fail ⟨"Unprotected success on a secure-messaging session: no DO'8E' to verify"⟩
    else return rapdu
  else do
    Proc.modify fun sm => { sm with ssc := sm.ssc.increment }
    let sm ← Proc.get
    Proc.lift (sm.unprotectBody rapdu)

/-! ## The counter step -/

/-- The handler with its counter advanced by one. -/
def advance (sm : MrtdSM) : MrtdSM := { sm with ssc := sm.ssc.increment }

@[simp] lemma advance_cipher (sm : MrtdSM) : sm.advance.cipher = sm.cipher := rfl

@[simp] lemma advance_ssc (sm : MrtdSM) : sm.advance.ssc = sm.ssc.increment := rfl

/-- `protect` advances the counter whatever comes of the rest. -/
lemma protect_apply (cmd : CommandApdu) (sm : MrtdSM) :
    protect cmd sm = (sm.advance.protectBody cmd, sm.advance) := rfl

/-- So does `unprotect` on a response with a body. -/
lemma unprotect_apply_body {rapdu : ResponseApdu} (h : hasBody rapdu = true) (sm : MrtdSM) :
    unprotect rapdu sm = (sm.advance.unprotectBody rapdu, sm.advance) := by
  simp only [unprotect, h, Bool.not_true, Bool.false_eq_true, if_false]
  rfl

/-- A bare status word leaves the handler as it was. -/
lemma unprotect_apply_bare {rapdu : ResponseApdu} (h : hasBody rapdu = false) (sm : MrtdSM) :
    unprotect rapdu sm =
      (if rapdu.status = StatusWord.success then
        .err ⟨"Unprotected success on a secure-messaging session: no DO'8E' to verify"⟩
      else .ok rapdu, sm) := by
  simp only [unprotect, h, Bool.not_false, if_true]
  split <;> rfl

@[simp] lemma hasBody_some (sw : StatusWord) (body : Bytes) :
    hasBody ⟨sw, some body⟩ = !body.isEmpty := rfl

lemma hasBody_iff {rapdu : ResponseApdu} :
    hasBody rapdu = true ↔ ∃ body, rapdu.data = some body ∧ body ≠ [] := by
  rcases rapdu with ⟨sw, _ | body⟩
  · simp [hasBody]
  · simp [hasBody]

lemma blockLen_eq (sm : MrtdSM) : sm.blockLen = .ok sm.cipher.cipherAlgorithm.blockSize := by
  unfold blockLen
  cases sm.cipher.cipherAlgorithm <;> rfl

lemma generateK_eq_ok {sm : MrtdSM} {data k : Bytes} :
    sm.generateK data = .ok k ↔
      Iso9797.pad (sm.ssc.toBytes ++ data) sm.cipher.cipherAlgorithm.blockSize = .ok k := by
  simp only [generateK, blockLen_eq, Outcome.ok_bind, Outcome.mapErr_eq_ok]

lemma generateN_eq_ok {sm : MrtdSM} {m n : Bytes} :
    sm.generateN m = .ok n ↔
      Iso9797.pad (sm.ssc.toBytes ++ m) sm.cipher.cipherAlgorithm.blockSize = .ok n := by
  simp only [generateN, blockLen_eq, Outcome.ok_bind, Outcome.mapErr_eq_ok]

/-- `protect` taken apart: the data object, the `DO'97'`, and a `DO'8E'` over the counter, the
padded header and both. -/
lemma protectBody_eq_ok {sm : MrtdSM} {cmd wire : CommandApdu} :
    sm.protectBody cmd = .ok wire ↔
      ∃ dataDo do97 header n cc do8e,
        sm.generateDataDo { cmd with cla := maskCla cmd.cla } = .ok dataDo ∧
        Sm.do97 cmd.ne = .ok do97 ∧
        Iso9797.pad [maskCla cmd.cla, cmd.ins, cmd.p1, cmd.p2]
          sm.cipher.cipherAlgorithm.blockSize = .ok header ∧
        Iso9797.pad (sm.ssc.toBytes ++ (header ++ dataDo ++ do97))
          sm.cipher.cipherAlgorithm.blockSize = .ok n ∧
        sm.cipher.mac n = .ok cc ∧ Sm.do8e cc = .ok do8e ∧
        wire = ⟨maskCla cmd.cla, cmd.ins, cmd.p1, cmd.p2, some (dataDo ++ do97 ++ do8e), 256⟩ := by
  simp only [protectBody, generateM, CommandApdu.rawHeader, blockLen_eq, Outcome.bind_eq_ok,
    generateN_eq_ok, Outcome.mapErr_eq_ok, Outcome.pure_eq, Outcome.ok.injEq]
  constructor
  · rintro ⟨dataDo, hd, do97, h97, _, ⟨_, rfl, header, hh, rfl⟩, n, hn, cc, hcc, do8e, h8e, rfl⟩
    exact ⟨dataDo, do97, header, n, cc, do8e, hd, h97, hh, hn, hcc, h8e, rfl⟩
  · rintro ⟨dataDo, do97, header, n, cc, do8e, hd, h97, hh, hn, hcc, h8e, rfl⟩
    exact ⟨dataDo, hd, do97, h97, _, ⟨_, rfl, header, hh, rfl⟩, n, hn, cc, hcc, do8e, h8e, rfl⟩

/-! ## The grammar of a protected response -/

/-- `bytes` is exactly one data object with the single-byte tag `tag`, decoded as `tv`. -/
structure IsDo (tag : Nat) (bytes : Bytes) (tv : DecodedTv) : Prop where
  head : bytes.head? = some (UInt8.ofNat tag)
  decoded : Tlv.decode bytes = .ok tv
  whole : tv.encodedLen = bytes.length

namespace IsDo

variable {tag : Nat} {bytes : Bytes} {tv : DecodedTv}

lemma eq_cons (h : IsDo tag bytes tv) : ∃ tl, bytes = UInt8.ofNat tag :: tl := by
  rcases bytes with _ | ⟨b, tl⟩
  · simpa using h.head
  · exact ⟨tl, by simpa using h.head⟩

lemma ne_nil (h : IsDo tag bytes tv) : bytes ≠ [] := by
  obtain ⟨tl, rfl⟩ := h.eq_cons
  exact List.cons_ne_nil _ _

lemma tag_eq (h : IsDo tag bytes tv) (ht : Tlv.IsSingleByte tag) : tv.tag.value = tag := by
  obtain ⟨tl, rfl⟩ := h.eq_cons
  have hlt := ht.1
  rw [Tlv.decode_tag_of_head ht.2 h.decoded]
  simp only [UInt8.toNat_ofNat']
  omega

/-- An object found at the head of a longer string. -/
lemma of_decode {xs : Bytes} (hhead : xs.head? = some (UInt8.ofNat tag))
    (h : Tlv.decode xs = .ok tv) : IsDo tag (xs.take tv.encodedLen) tv := by
  obtain ⟨h2, hle, hloc⟩ := Tlv.decode_local h []
  rw [List.append_nil] at hloc
  refine ⟨?_, hloc, ?_⟩
  · rw [List.head?_take, if_neg (by omega), hhead]
  · rw [List.length_take]
    omega

/-- What the encoder builds. -/
lemma of_encode {ε : Type} {data : Bytes} (ht : Tlv.IsSingleByte tag)
    (h : (Tlv.encode tag data : Outcome ε Bytes) = .ok bytes) :
    IsDo tag bytes ⟨⟨tag, 1⟩, data, bytes.length⟩ := by
  refine ⟨?_, ?_, rfl⟩
  · obtain ⟨l, -, rfl⟩ := Tlv.encode_eq_ok.mp h
    simp [Tlv.encodeTag_of_lt ht.1]
  · simpa using Tlv.decode_encode ht h []

end IsDo

/-- `bytes` is the optional data object of a response: nothing, or one `DO'85'` or `DO'87'`. -/
inductive IsDataDo : Bytes → Option DecodedTv → Prop
  | absent : IsDataDo [] none
  | do85 {bytes tv} (h : IsDo Sm.tagDo85 bytes tv) : IsDataDo bytes (some tv)
  | do87 {bytes tv} (h : IsDo Sm.tagDo87 bytes tv) : IsDataDo bytes (some tv)

/-- The bytes a parsed data object took. -/
def encodedLen (dataDo : Option DecodedTv) : Nat := dataDo.elim 0 fun d => d.encodedLen

lemma IsDataDo.encodedLen_eq {bytes : Bytes} {dataDo : Option DecodedTv}
    (h : IsDataDo bytes dataDo) : encodedLen dataDo = bytes.length := by
  cases h with
  | absent => rfl
  | do85 h => exact h.whole
  | do87 h => exact h.whole

/-- The three parsing steps of `unprotect`, at their running offsets. -/
structure Parses (rapdu : ResponseApdu) (dataDo : Option DecodedTv) (do99 do8e : DecodedTv) :
    Prop where
  parse_dataDo : parseDataDo rapdu = .ok dataDo
  parse_do99 : parseDo99 rapdu (encodedLen dataDo) = .ok do99
  parse_do8e : parseDo8e rapdu (encodedLen dataDo + do99.encodedLen) = .ok do8e

lemma toNat_eq_iff {b : UInt8} {tag : Nat} (ht : tag < 256) :
    b.toNat = tag ↔ b = UInt8.ofNat tag := by
  constructor
  · rintro rfl
    simp
  · rintro rfl
    rw [UInt8.toNat_ofNat']
    omega

/-- Finding an object at an offset is the same as splitting the body there. -/
lemma parseDoAt_eq_ok {tag : Nat} (ht : tag < 256) {missing missingOrOffset : String}
    {invalid : TlvError → String} {sw : StatusWord} {body : Bytes} {offset : Nat}
    {tv : DecodedTv} :
    parseDoAt tag missing missingOrOffset invalid ⟨sw, some body⟩ offset = .ok tv ↔
      ∃ bytes rest, body = body.take offset ++ bytes ++ rest ∧ IsDo tag bytes tv := by
  simp only [parseDoAt, Outcome.ofOption_some, Outcome.ok_bind]
  constructor
  · intro h
    split at h
    · simp at h
    · rename_i hcond
      simp only [ge_iff_le, ne_eq, not_or, not_le, not_not] at hcond
      obtain ⟨hlt, htag⟩ := hcond
      have hhead : (body.drop offset).head? = some (UInt8.ofNat tag) := by
        rw [List.head?_drop, ← (toNat_eq_iff ht).mp htag, List.getD_eq_getElem?_getD,
          List.getElem?_eq_getElem hlt, Option.getD_some]
      have hdec := Outcome.mapErr_eq_ok.mp h
      refine ⟨_, (body.drop offset).drop tv.encodedLen, ?_, IsDo.of_decode hhead hdec⟩
      rw [List.append_assoc, List.take_append_drop, List.take_append_drop]
  · rintro ⟨bytes, rest, hbody, hdo⟩
    obtain ⟨tl, htl⟩ := hdo.eq_cons
    have hdrop : body.drop offset = bytes ++ rest := by
      have hsplit := List.take_append_drop offset body
      conv_rhs at hsplit => rw [hbody, List.append_assoc]
      exact List.append_cancel_left hsplit
    have hlt : offset < body.length := by
      have hlen := congrArg List.length hdrop
      rw [htl, List.length_drop, List.length_append, List.length_cons] at hlen
      omega
    have htag : (body.getD offset 0).toNat = tag := by
      rw [toNat_eq_iff ht, List.getD_eq_getElem?_getD, ← List.head?_drop, hdrop, htl]
      rfl
    rw [if_neg (by simp only [ge_iff_le, ne_eq, not_or, not_le, not_not]; exact ⟨hlt, htag⟩),
      Outcome.mapErr_eq_ok, hdrop]
    exact Tlv.decode_append hdo.decoded rest

lemma parseDataDo_eq_ok {sw : StatusWord} {body : Bytes} (hbody : body ≠ [])
    {dataDo : Option DecodedTv} :
    parseDataDo ⟨sw, some body⟩ = .ok dataDo ↔
      ∃ bytes rest, body = bytes ++ rest ∧ IsDataDo bytes dataDo ∧
        (bytes = [] → rest.head? ≠ some (UInt8.ofNat Sm.tagDo85) ∧
          rest.head? ≠ some (UInt8.ofNat Sm.tagDo87)) := by
  obtain ⟨first, tl, rfl⟩ := List.exists_cons_of_ne_nil hbody
  have h85 : first.toNat = Sm.tagDo85 ↔ first = UInt8.ofNat Sm.tagDo85 := toNat_eq_iff (by decide)
  have h87 : first.toNat = Sm.tagDo87 ↔ first = UInt8.ofNat Sm.tagDo87 := toNat_eq_iff (by decide)
  simp only [parseDataDo, ne_eq, h85, h87]
  constructor
  · intro h
    split at h
    · rename_i hno
      obtain rfl := Outcome.ok.inj h
      exact ⟨[], first :: tl, rfl, .absent, fun _ => by simpa using hno⟩
    · rename_i hyes
      obtain ⟨tv, hdec, htv⟩ := Outcome.bind_eq_ok.mp h
      obtain rfl := Outcome.ok.inj htv
      have hdec := Outcome.mapErr_eq_ok.mp hdec
      refine ⟨(first :: tl).take tv.encodedLen, (first :: tl).drop tv.encodedLen,
        (List.take_append_drop _ _).symm, ?_, ?_⟩
      · by_cases hf : first = UInt8.ofNat Sm.tagDo85
        · exact .do85 (IsDo.of_decode (by rw [List.head?_cons, hf]) hdec)
        · have hf' : first = UInt8.ofNat Sm.tagDo87 := by
            by_contra hne
            exact hyes ⟨hf, hne⟩
          exact .do87 (IsDo.of_decode (by rw [List.head?_cons, hf']) hdec)
      · intro hnil
        have h2 := (Tlv.decode_local hdec []).1
        rw [List.take_eq_nil_iff] at hnil
        simp only [reduceCtorEq, or_false] at hnil
        omega
  · rintro ⟨bytes, rest, hsplit, hdata, hno⟩
    cases hdata with
    | absent =>
      rw [List.nil_append] at hsplit
      have hno := hno rfl
      rw [← hsplit] at hno
      simp only [List.head?_cons, Option.some.injEq] at hno
      rw [if_pos hno]
    | do85 h =>
      obtain ⟨tl', rfl⟩ := h.eq_cons
      have hf : first = UInt8.ofNat Sm.tagDo85 := by simpa using congrArg List.head? hsplit
      rw [if_neg (by simp [hf]), hsplit, Tlv.decode_append h.decoded rest]
      rfl
    | do87 h =>
      obtain ⟨tl', rfl⟩ := h.eq_cons
      have hf : first = UInt8.ofNat Sm.tagDo87 := by simpa using congrArg List.head? hsplit
      rw [if_neg (by simp [hf]), hsplit, Tlv.decode_append h.decoded rest]
      rfl

/-- The parsing steps accept a body exactly when it is an optional data object, a `DO'99'` and a
`DO'8E'`, followed by anything at all. -/
theorem parses_iff {sw : StatusWord} {body : Bytes} {dataDo : Option DecodedTv}
    {do99 do8e : DecodedTv} :
    Parses ⟨sw, some body⟩ dataDo do99 do8e ↔
      ∃ dataBytes do99Bytes do8eBytes rest,
        body = dataBytes ++ do99Bytes ++ do8eBytes ++ rest ∧ IsDataDo dataBytes dataDo ∧
        IsDo Sm.tagDo99 do99Bytes do99 ∧ IsDo Sm.tagDo8E do8eBytes do8e := by
  constructor
  · rintro ⟨h1, h2, h3⟩
    have hbody : body ≠ [] := by
      rintro rfl
      simp [parseDo99, parseDoAt] at h2
    obtain ⟨dataBytes, rest₁, hb₁, hdata, -⟩ := (parseDataDo_eq_ok hbody).mp h1
    obtain ⟨do99Bytes, rest₂, hb₂, h99⟩ := (parseDoAt_eq_ok (by decide)).mp h2
    obtain ⟨do8eBytes, rest₃, hb₃, h8e⟩ := (parseDoAt_eq_ok (by decide)).mp h3
    have hlen := hdata.encodedLen_eq
    have htake₁ : body.take (encodedLen dataDo) = dataBytes := by
      rw [hb₁, hlen, List.take_left' rfl]
    have htake₂ : body.take (encodedLen dataDo + do99.encodedLen) = dataBytes ++ do99Bytes := by
      rw [hb₂, htake₁, hlen, h99.whole]
      exact List.take_left' (by rw [List.length_append])
    refine ⟨dataBytes, do99Bytes, do8eBytes, rest₃, ?_, hdata, h99, h8e⟩
    rw [← htake₂]
    exact hb₃
  · rintro ⟨dataBytes, do99Bytes, do8eBytes, rest, rfl, hdata, h99, h8e⟩
    have hlen := hdata.encodedLen_eq
    have hbody : dataBytes ++ do99Bytes ++ do8eBytes ++ rest ≠ [] := by
      simp [h99.ne_nil]
    obtain ⟨tl, htl⟩ := h99.eq_cons
    refine ⟨(parseDataDo_eq_ok hbody).mpr
      ⟨dataBytes, do99Bytes ++ do8eBytes ++ rest, by simp only [List.append_assoc], hdata, ?_⟩,
      (parseDoAt_eq_ok (by decide)).mpr ⟨do99Bytes, do8eBytes ++ rest, ?_, h99⟩,
      (parseDoAt_eq_ok (by decide)).mpr ⟨do8eBytes, rest, ?_, h8e⟩⟩
    · intro _
      rw [htl, List.append_assoc, List.cons_append, List.head?_cons]
      exact ⟨by decide, by decide⟩
    · rw [hlen]
      simp only [List.append_assoc]
      rw [List.take_left' rfl]
    · rw [hlen, h99.whole]
      have htake : (dataBytes ++ do99Bytes ++ do8eBytes ++ rest).take
          (dataBytes.length + do99Bytes.length) = dataBytes ++ do99Bytes := by
        rw [List.append_assoc, List.append_assoc, ← List.append_assoc dataBytes]
        exact List.take_left' (by rw [List.length_append])
      rw [htake]

/-! ## What `unprotect` accepts -/

/-- `cc` is the MAC of `ssc ‖ covered`, padded to the cipher's block size. -/
def Verifies (cipher : SmCipher) (ssc : Ssc) (covered cc : Bytes) : Prop :=
  ∃ k, Iso9797.pad (ssc.toBytes ++ covered) cipher.cipherAlgorithm.blockSize = .ok k ∧
    cipher.mac k = .ok cc

/-- The plaintext a data object stands for under `ssc`.  An object with an empty value stands for
no data.  `DO'85'` and `DO'87'` with indicator `01` are decrypted and unpadded; `DO'87'` with
indicator `02` was never padded. -/
inductive Decrypts (cipher : SmCipher) (ssc : Ssc) : Option DecodedTv → Option Bytes → Prop
  | absent : Decrypts cipher ssc none none
  | empty {tv} (hv : tv.value = []) : Decrypts cipher ssc (some tv) none
  | do85 {tv padded data} (htag : tv.tag.value = Sm.tagDo85) (hv : tv.value ≠ [])
      (hdec : cipher.decrypt tv.value (some ssc) = .ok padded)
      (hunpad : Iso9797.unpad padded cipher.cipherAlgorithm.blockSize = .ok data) :
      Decrypts cipher ssc (some tv) (some data)
  | do87Padded {tv input padded data} (htag : tv.tag.value = Sm.tagDo87)
      (hv : tv.value = 0x01 :: input) (hdec : cipher.decrypt input (some ssc) = .ok padded)
      (hunpad : Iso9797.unpad padded cipher.cipherAlgorithm.blockSize = .ok data) :
      Decrypts cipher ssc (some tv) (some data)
  | do87Unpadded {tv input data} (htag : tv.tag.value = Sm.tagDo87)
      (hv : tv.value = 0x02 :: input) (hdec : cipher.decrypt input (some ssc) = .ok data) :
      Decrypts cipher ssc (some tv) (some data)

lemma cipherInput_do85 {tv : DecodedTv} (h : tv.tag.value = Sm.tagDo85) :
    cipherInput tv = .ok (true, tv.value) := by
  rw [cipherInput, h, if_neg (by decide)]

lemma cipherInput_do87 {tv : DecodedTv} (h : tv.tag.value = Sm.tagDo87) {p : Bool × Bytes} :
    cipherInput tv = .ok p ↔
      (∃ input, tv.value = 0x01 :: input ∧ p = (true, input)) ∨
        ∃ input, tv.value = 0x02 :: input ∧ p = (false, input) := by
  rw [cipherInput, h, if_pos rfl]
  split
  · rename_i rest hv
    simp [hv, eq_comm]
  · rename_i rest hv
    simp [hv, eq_comm]
  · rename_i other rest hne1 hne2 hv
    simp only [reduceCtorEq, hv, List.cons.injEq, false_iff, not_or, not_exists, not_and]
    exact ⟨fun input ⟨h1, _⟩ => absurd h1 (by simpa using hne1),
      fun input ⟨h2, _⟩ => absurd h2 (by simpa using hne2)⟩
  · rename_i hv
    simp [hv]

lemma decryptDataDo_of_ne_nil {sm : MrtdSM} {tv : DecodedTv} (hv : tv.value ≠ [])
    (htag : tv.tag.value = Sm.tagDo85 ∨ tv.tag.value = Sm.tagDo87) {data : Option Bytes} :
    sm.decryptDataDo (some tv) = .ok data ↔
      ∃ padded input d, cipherInput tv = .ok (padded, input) ∧
        sm.cipher.decrypt input (some sm.ssc) = .ok d ∧ ∃ p, data = some p ∧
          if padded then Iso9797.unpad d sm.cipher.cipherAlgorithm.blockSize = .ok p
          else d = p := by
  have hcond : ¬ (tv.tag.value ≠ Sm.tagDo85 ∧ tv.tag.value ≠ Sm.tagDo87) := by
    rintro ⟨h85, h87⟩
    rcases htag with h | h
    · exact h85 h
    · exact h87 h
  have hempty : ¬ tv.value.isEmpty = true := by simpa using hv
  simp only [decryptDataDo, if_neg hempty, if_neg hcond, Outcome.bind_eq_ok, Prod.exists]
  refine exists_congr fun padded => exists_congr fun input => ?_
  rw [← exists_and_left]
  refine exists_congr fun d => ?_
  refine and_congr_right fun _ => and_congr_right fun _ => ?_
  cases padded
  · simp [eq_comm]
  · simp only [if_true, blockLen_eq, Outcome.ok_bind, Outcome.bind_eq_ok, Outcome.mapErr_eq_ok,
      Outcome.pure_eq, Outcome.ok.injEq]
    exact exists_congr fun p => and_comm.trans (and_congr_left fun _ => eq_comm)

lemma Decrypts.eq_none {cipher : SmCipher} {ssc : Ssc} {tv : DecodedTv} {data : Option Bytes}
    (h : Decrypts cipher ssc (some tv) data) (hv : tv.value = []) : data = none := by
  cases h with
  | empty _ => rfl
  | do85 _ hne _ _ => exact absurd hv hne
  | do87Padded _ hv' _ _ => simp [hv] at hv'
  | do87Unpadded _ hv' _ => simp [hv] at hv'

lemma decryptDataDo_do85 {sm : MrtdSM} {tv : DecodedTv} (hv : tv.value ≠ [])
    (htag : tv.tag.value = Sm.tagDo85) {data : Option Bytes} :
    sm.decryptDataDo (some tv) = .ok data ↔ Decrypts sm.cipher sm.ssc (some tv) data := by
  rw [decryptDataDo_of_ne_nil hv (.inl htag), cipherInput_do85 htag]
  constructor
  · rintro ⟨padded, input, d, hin, hdec, p, rfl, hp⟩
    obtain ⟨rfl, rfl⟩ := Prod.mk.inj (Outcome.ok.inj hin)
    exact .do85 htag hv hdec hp
  · intro h
    cases h with
    | empty hv' => exact absurd hv' hv
    | do85 _ _ hdec hunpad => exact ⟨true, _, _, rfl, hdec, _, rfl, hunpad⟩
    | do87Padded h87 _ _ _ => exact absurd (htag.symm.trans h87) (by decide)
    | do87Unpadded h87 _ _ => exact absurd (htag.symm.trans h87) (by decide)

lemma decryptDataDo_do87 {sm : MrtdSM} {tv : DecodedTv} (hv : tv.value ≠ [])
    (htag : tv.tag.value = Sm.tagDo87) {data : Option Bytes} :
    sm.decryptDataDo (some tv) = .ok data ↔ Decrypts sm.cipher sm.ssc (some tv) data := by
  rw [decryptDataDo_of_ne_nil hv (.inr htag)]
  simp only [cipherInput_do87 htag]
  constructor
  · rintro ⟨padded, input, d, ⟨i, hval, hin⟩ | ⟨i, hval, hin⟩, hdec, p, rfl, hp⟩
    · obtain ⟨rfl, rfl⟩ := Prod.mk.inj hin
      exact .do87Padded htag hval hdec hp
    · obtain ⟨rfl, rfl⟩ := Prod.mk.inj hin
      rw [if_neg (by decide)] at hp
      exact .do87Unpadded htag hval (hp ▸ hdec)
  · intro h
    cases h with
    | empty hv' => exact absurd hv' hv
    | do85 h85 _ _ _ => exact absurd (htag.symm.trans h85) (by decide)
    | do87Padded _ hval hdec hunpad =>
      exact ⟨true, _, _, .inl ⟨_, hval, rfl⟩, hdec, _, rfl, hunpad⟩
    | do87Unpadded _ hval hdec =>
      exact ⟨false, _, _, .inr ⟨_, hval, rfl⟩, hdec, _, rfl, rfl⟩

lemma decryptDataDo_eq_ok {sm : MrtdSM} {bytes : Bytes} {dataDo : Option DecodedTv}
    {data : Option Bytes} (h : IsDataDo bytes dataDo) :
    sm.decryptDataDo dataDo = .ok data ↔ Decrypts sm.cipher sm.ssc dataDo data := by
  have hnil : ∀ tv : DecodedTv, tv.value = [] →
      (sm.decryptDataDo (some tv) = .ok data ↔ Decrypts sm.cipher sm.ssc (some tv) data) := by
    intro tv hv
    simp only [decryptDataDo, hv, List.isEmpty_nil, if_true, Outcome.ok.injEq]
    constructor
    · rintro rfl
      exact .empty hv
    · intro h
      exact (h.eq_none hv).symm
  cases h with
  | absent =>
    simp only [decryptDataDo, Outcome.ok.injEq]
    constructor
    · rintro rfl
      exact .absent
    · rintro ⟨⟩
      rfl
  | @do85 _ tv hdo =>
    by_cases hv : tv.value = []
    · exact hnil tv hv
    · exact decryptDataDo_do85 hv (hdo.tag_eq (by decide))
  | @do87 _ tv hdo =>
    by_cases hv : tv.value = []
    · exact hnil tv hv
    · exact decryptDataDo_do87 hv (hdo.tag_eq (by decide))

/-- `unprotect` accepts a body exactly when it parses, its MAC verifies over everything before the
`DO'8E'`, its data object decrypts, and its `DO'99'` holds the status. -/
theorem unprotectBody_eq_ok {sm : MrtdSM} {sw : StatusWord} {body : Bytes} {r : ResponseApdu} :
    sm.unprotectBody ⟨sw, some body⟩ = .ok r ↔
      ∃ dataDo do99 do8e, Parses ⟨sw, some body⟩ dataDo do99 do8e ∧
        Verifies sm.cipher sm.ssc (body.take (encodedLen dataDo + do99.encodedLen)) do8e.value ∧
        Decrypts sm.cipher sm.ssc dataDo r.data ∧
        StatusWord.fromBytes do99.value 0 = .ok r.status := by
  simp only [unprotectBody, Outcome.bind_eq_ok, Outcome.ofOption_some, Outcome.ok.injEq]
  constructor
  · rintro ⟨dataDo, h1, do99, h2, do8e, h3, _, rfl, k, hk, cc, hcc, h⟩
    split at h
    · simp at h
    rename_i hmac
    obtain rfl := not_not.mp hmac
    simp only [Outcome.bind_eq_ok, Outcome.mapErr_eq_ok, Outcome.pure_eq, Outcome.ok.injEq] at h
    obtain ⟨data, hdata, status, hstatus, rfl⟩ := h
    have hp : Parses ⟨sw, some body⟩ dataDo do99 do8e := ⟨h1, h2, h3⟩
    obtain ⟨bytes, _, _, _, _, hdo, _⟩ := parses_iff.mp hp
    exact ⟨dataDo, do99, do8e, hp, ⟨k, generateK_eq_ok.mp hk, hcc⟩, (decryptDataDo_eq_ok hdo).mp hdata, hstatus⟩
  · rintro ⟨dataDo, do99, do8e, hp, ⟨k, hk, hcc⟩, hdata, hstatus⟩
    obtain ⟨bytes, _, _, _, _, hdo, _⟩ := parses_iff.mp hp
    refine ⟨dataDo, hp.parse_dataDo, do99, hp.parse_do99, do8e, hp.parse_do8e, body, rfl, k, ?_,
      _, hcc, ?_⟩
    · exact generateK_eq_ok.mpr hk
    · rw [if_neg (not_not.mpr rfl), (decryptDataDo_eq_ok hdo).mpr hdata, hstatus]
      rfl

end MrtdSM

end Dmrtd
