import IdentityCrates.Dmrtd.Properties.LockStep
import IdentityCrates.Dmrtd.Proto.SmCiphers

/-!
# The length of a protected command

`CommandApdu::new` refuses a data field of more than 65535 bytes, the most an extended Lc field can
announce.  `protect` does not build its result there: it replaces the data field of a copy.  What it
puts in is longer than what it took out, by the padding, the object headers and the MAC, and nothing
checks the length again.

`protectedLength` computes that length from the command and the block size alone.  It is exact for
both ciphers of the crate (`length_protectBody`), so the Lc field that `to_bytes` writes for a
protected command is right if and only if it does not exceed 65535 (`protect_lc_iff`).  Commands at
the upper end of what the constructor admits do exceed it: their length is written modulo 65536.
-/

namespace Dmrtd

open Rust Octets

/-! ## The Lc field -/

namespace CommandApdu

/-- The number in the Lc field of a serialised command with a data field: the byte behind the
header, or the two bytes behind a `00` marker. -/
def lcField (wire : Bytes) : Nat :=
  match wire.drop 4 with
  | lc :: rest => if lc = 0 then ofBE (rest.take 2) else lc.toNat
  | [] => 0

/-- The short form holds every length it is used for; the extended form holds the length
modulo 65536. -/
lemma lcField_toBytes {c : CommandApdu} (hne : c.body ≠ []) :
    lcField c.toBytes =
      if c.body.length > 255 ∨ c.ne > 256 then c.body.length % 65536 else c.body.length := by
  have hdata : (!c.body.isEmpty) = true := by simpa using hne
  have hpos : 0 < c.body.length := List.length_pos_iff.mpr hne
  by_cases hext : c.body.length > 255 ∨ c.ne > 256
  · have hbool : (decide (c.body.length > 255) || decide (c.ne > 256)) = true := by
      simpa using hext
    simp only [lcField, toBytes, hdata, hbool, if_true, rawHeader, List.append_assoc,
      List.cons_append, List.nil_append, List.drop_succ_cons, List.drop_zero, if_pos hext]
    rw [List.take_append_of_le_length (by rw [length_toBE]),
      List.take_of_length_le (by rw [length_toBE]), ofBE_toBE]
    rfl
  · have hbool : (decide (c.body.length > 255) || decide (c.ne > 256)) = false := by
      simpa using hext
    have hmod : (UInt8.ofNat c.body.length).toNat = c.body.length := by
      rw [UInt8.toNat_ofNat']
      omega
    have hlc : ¬ UInt8.ofNat c.body.length = 0 := ofNat_ne_zero (by omega)
    simp only [lcField, toBytes, hdata, hbool, if_true, Bool.false_eq_true, if_false, rawHeader,
      List.cons_append, List.nil_append, List.drop_succ_cons, List.drop_zero,
      if_neg hext, if_neg hlc, hmod]

/-- The Lc field is the length of the data field exactly up to 65535 bytes. -/
lemma lcField_eq_length_iff {c : CommandApdu} (hne : c.body ≠ []) :
    lcField c.toBytes = c.body.length ↔ c.body.length ≤ 65535 := by
  rw [lcField_toBytes hne]
  split <;> omega

end CommandApdu

/-! ## The length of each data object -/

/-- The bytes of a BER length field. -/
def Tlv.lengthFieldLength (n : Nat) : Nat := if n < 0x80 then 1 else 1 + byteCount n

lemma Tlv.length_encodeLength {n : Nat} {l : Bytes} (h : encodeLength n = .ok l) :
    l.length = lengthFieldLength n := by
  unfold lengthFieldLength
  by_cases hmax : n > 0xFFFFFF
  · simp [encodeLength, hmax] at h
  by_cases hs : n < 0x80
  · rw [encodeLength_of_lt hs] at h
    obtain rfl := Outcome.ok.inj h
    rw [if_pos hs]
    rfl
  · rw [encodeLength_of_ge (by omega) (by omega)] at h
    obtain rfl := Outcome.ok.inj h
    rw [if_neg hs, List.length_cons, length_toBE]
    omega

/-- The bytes of a data object with a single-byte tag and a value of `n` bytes. -/
def Sm.doLength (n : Nat) : Nat := 1 + Tlv.lengthFieldLength n + n

lemma Sm.length_buildDo {tag : Nat} {data bytes : Bytes} (htag : tag < 256) (hdata : data ≠ [])
    (h : Sm.buildDo tag data = .ok bytes) : bytes.length = Sm.doLength data.length := by
  obtain ⟨l, hl, rfl⟩ := Tlv.encode_eq_ok.mp ((Sm.buildDo_eq_ok htag hdata).mp h)
  rw [Tlv.encodeTag_of_lt htag, List.length_append, List.length_append, List.length_singleton,
    Tlv.length_encodeLength hl, Sm.doLength]

/-- The length of the data object for `n` bytes of command data: padded to whole blocks, and behind
a padding-content indicator except in a `DO'85'`. -/
def Sm.dataDoLength (blockSize n : Nat) (odd : Bool) : Nat :=
  if n = 0 then 0
  else Sm.doLength (n + (blockSize - n % blockSize) + if odd then 0 else 1)

/-- The length of the `DO'97'`: none for 0, one value byte up to 256, two beyond. -/
def Sm.do97Length (ne : Nat) : Nat := if ne = 0 then 0 else if ne ≤ 256 then 3 else 4

lemma length_intToBin_zero {n : Nat} (hpos : 0 < n) (hn : n < 65536) :
    (intToBin n 0).length = if n < 256 then 1 else 2 := by
  have hzero : n / 256 / 256 = 0 := by omega
  have hsplit : toBE 8 n =
      [0, 0, 0, 0, 0, 0, UInt8.ofNat (n / 256), UInt8.ofNat n] := by
    simp [hzero]
  have hdrop : intToBin n 0 = (toBE 8 n).drop ((toBE 8 n).findIdx (fun b => b != 0)) := by
    simp [intToBin]
  rw [hdrop, hsplit]
  by_cases hlt : n < 256
  · have hhi : n / 256 = 0 := by omega
    have hlo : (UInt8.ofNat n != 0) = true := bne_iff_ne.mpr (ofNat_ne_zero (by omega))
    rw [if_pos hlt, hhi]
    simp [List.findIdx_cons, hlo]
  · have hhi : (UInt8.ofNat (n / 256) != 0) = true := bne_iff_ne.mpr (ofNat_ne_zero (by omega))
    rw [if_neg hlt]
    simp [List.findIdx_cons, hhi]

lemma Sm.length_do97 {ne : Nat} {bytes : Bytes} (hne : ne ≤ 65536) (h : Sm.do97 ne = .ok bytes) :
    bytes.length = Sm.do97Length ne := by
  rw [Sm.do97] at h
  unfold Sm.do97Length
  by_cases hzeros : ne = 256 ∨ ne = 65536
  · rw [if_pos hzeros] at h
    rcases hzeros with rfl | rfl
    · rw [Sm.length_buildDo (by decide) (by decide) h]
      rfl
    · rw [Sm.length_buildDo (by decide) (by decide) h]
      rfl
  · rw [if_neg hzeros] at h
    by_cases h0 : ne = 0
    · subst h0
      have hnil : intToBin 0 0 = [] := by decide
      rw [hnil, Sm.buildDo_nil (by decide)] at h
      rw [← Outcome.ok.inj h]
      rfl
    · have hlen := length_intToBin_zero (n := ne) (by omega) (by omega)
      have hnonempty : intToBin ne 0 ≠ [] := by
        refine List.ne_nil_of_length_pos ?_
        rw [hlen]
        split <;> omega
      rw [Sm.length_buildDo (by decide) hnonempty h, hlen, if_neg h0]
      by_cases hlt : ne < 256
      · rw [if_pos hlt, if_pos (by omega)]
        rfl
      · rw [if_neg hlt, if_neg (by omega)]
        rfl

/-! ## The ciphers of the crate -/

/-- `cipher` is one of the two implementations of `SmCipher`. -/
inductive SmCipher.Implemented (P : Primitives) : SmCipher → Prop
  | des (self : DesSmCipher) : SmCipher.Implemented P (self.toSmCipher P)
  | aes (self : AesSmCipher) : SmCipher.Implemented P (self.toSmCipher P)

/-- The counter widths a session under an algorithm can encrypt with: AES takes the counter for a
block, 3DES does not look at it. -/
def CipherAlgorithm.TakesCounter : CipherAlgorithm → Ssc → Prop
  | .deSede, _ => True
  | .aes, ssc => ssc.bitSize = 128

/-- What a cipher produces has the length it should have: ciphertext that of the plaintext, a MAC
eight bytes. -/
structure SmCipher.KeepsLengths (c : SmCipher) : Prop where
  encrypt : ∀ (data edata : Bytes) (ssc : Ssc), data.length % c.cipherAlgorithm.blockSize = 0 →
    c.encrypt data (some ssc) = .ok edata → edata.length = data.length
  mac : ∀ data cc : Bytes, data ≠ [] → data.length % c.cipherAlgorithm.blockSize = 0 →
    c.mac data = .ok cc → cc.length = 8

namespace SmCipher.Implemented

variable {P : Primitives} {cipher : SmCipher}

lemma keepsLengths (h : cipher.Implemented P) : cipher.KeepsLengths := by
  have hmac : ∀ {c : SmCipher} {bitSize : Nat}, c.Lawful bitSize → ∀ data cc : Bytes, data ≠ [] →
      data.length % c.cipherAlgorithm.blockSize = 0 → c.mac data = .ok cc → cc.length = 8 := by
    intro c bitSize law data cc hne hmod hcc
    obtain ⟨cc', hcc', hlen⟩ := law.mac_isOk data hne hmod
    obtain rfl := Outcome.ok.inj (hcc'.symm.trans hcc)
    exact hlen
  cases h with
  | des self =>
    refine ⟨fun data edata ssc hmod henc => ?_, hmac (self.lawful P 64)⟩
    exact (self.lawful P ssc.bitSize).length_encrypt data edata ssc rfl hmod henc
  | aes self =>
    refine ⟨fun data edata ssc hmod henc => ?_, hmac (self.lawful P)⟩
    by_cases hssc : ssc.bitSize = 128
    · exact (self.lawful P).length_encrypt data edata ssc hssc hmod henc
    · exact absurd henc (self.encrypt_ne_ok P hssc data edata)

lemma lawful (h : cipher.Implemented P) {ssc : Ssc}
    (hssc : cipher.cipherAlgorithm.TakesCounter ssc) : cipher.Lawful ssc.bitSize := by
  cases h with
  | des self => exact self.lawful P ssc.bitSize
  | aes self =>
    have hwidth : ssc.bitSize = 128 := hssc
    rw [hwidth]
    exact self.lawful P

/-- A session whose counter has the wrong width encrypts nothing. -/
lemma encrypt_ne_ok (h : cipher.Implemented P) {ssc : Ssc}
    (hssc : ¬ cipher.cipherAlgorithm.TakesCounter ssc) (data edata : Bytes) :
    cipher.encrypt data (some ssc) ≠ .ok edata := by
  cases h with
  | des self => exact absurd trivial hssc
  | aes self => exact self.encrypt_ne_ok P hssc data edata

end SmCipher.Implemented

/-! ## The length of a protected command -/

/-- The length of the data field of the protected form of `cmd`: the data object, the `DO'97'`, and
the ten bytes of the `DO'8E'`. -/
def MrtdSM.protectedLength (blockSize : Nat) (cmd : CommandApdu) : Nat :=
  Sm.dataDoLength blockSize cmd.body.length (cmd.ins = Ins.readBinaryExt) +
    Sm.do97Length cmd.ne + 10

namespace MrtdSM

lemma length_generateDataDo {sm : MrtdSM} (hkeeps : sm.cipher.KeepsLengths) {cmd : CommandApdu}
    {bytes : Bytes} (h : sm.generateDataDo cmd = .ok bytes) :
    bytes.length = Sm.dataDoLength sm.cipher.cipherAlgorithm.blockSize cmd.body.length
      (cmd.ins = Ins.readBinaryExt) := by
  have hpos := sm.cipher.cipherAlgorithm.blockSize_pos
  unfold Sm.dataDoLength
  by_cases hbody : cmd.body = []
  · rw [generateDataDo_of_body_nil hbody] at h
    rw [← Outcome.ok.inj h, hbody]
    rfl
  have hn : ¬ cmd.body.length = 0 := by simpa using hbody
  obtain ⟨padded, edata, hpad, henc, hdo⟩ := (generateDataDo_eq_ok hbody).mp h
  have hpadded := Iso9797.length_pad_eq hpos hpad
  have hedata := hkeeps.encrypt padded edata sm.ssc (Iso9797.length_pad hpos hpad).1 henc
  have hene : edata ≠ [] := by
    refine List.ne_nil_of_length_pos ?_
    omega
  rw [if_neg hn]
  by_cases hins : cmd.ins = Ins.readBinaryExt
  · rw [if_pos hins, Sm.do85] at hdo
    rw [Sm.length_buildDo (by decide) hene hdo, hedata, hpadded]
    simp [hins]
  · rw [if_neg hins, Sm.do87, if_neg (by simpa using hene)] at hdo
    rw [Sm.length_buildDo (by decide) (List.cons_ne_nil _ _) hdo, List.length_cons, hedata,
      hpadded]
    simp [hins]

/-- The protected command has the length computed from the command. -/
lemma length_protectBody (sm : MrtdSM) (hkeeps : sm.cipher.KeepsLengths) {cmd wire : CommandApdu}
    (hne : cmd.ne ≤ 65536) (h : sm.protectBody cmd = .ok wire) :
    wire.body.length = protectedLength sm.cipher.cipherAlgorithm.blockSize cmd := by
  have hpos := sm.cipher.cipherAlgorithm.blockSize_pos
  obtain ⟨dataDo, do97, header, n, cc, do8e, hdata, h97, hheader, hn, hcc, h8e, rfl⟩ :=
    protectBody_eq_ok.mp h
  have hdataLen := length_generateDataDo hkeeps hdata
  have h97Len := Sm.length_do97 hne h97
  obtain ⟨hmod, hlt, -⟩ := Iso9797.length_pad hpos hn
  have hccLen := hkeeps.mac n cc (List.ne_nil_of_length_pos (by omega)) hmod hcc
  have h8eLen : do8e.length = 10 := by
    rw [Sm.length_buildDo (by decide) (List.ne_nil_of_length_pos (by omega)) h8e, hccLen]
    rfl
  have hbody : (CommandApdu.mk (maskCla cmd.cla) cmd.ins cmd.p1 cmd.p2
      (some (dataDo ++ do97 ++ do8e)) 256).body = dataDo ++ do97 ++ do8e := rfl
  rw [hbody, List.length_append, List.length_append, hdataLen, h97Len, h8eLen, protectedLength]
  rfl

/-- A command in limits is always protected when the counter has the width the cipher takes. -/
lemma protectBody_isOk (sm : MrtdSM) (law : sm.cipher.Lawful sm.ssc.bitSize)
    {cmd : CommandApdu} (hlim : cmd.InLimits) : ∃ wire, sm.protectBody cmd = .ok wire := by
  have hpos := sm.cipher.cipherAlgorithm.blockSize_pos
  obtain ⟨dataDo, hdata, -⟩ :=
    generateDataDo_seals sm law { cmd with cla := maskCla cmd.cla } hlim.1
  obtain ⟨do97, -, h97, -⟩ := Sm.do97_isNeDo hlim.2
  obtain ⟨header, hheader⟩ := Iso9797.pad_isOk [maskCla cmd.cla, cmd.ins, cmd.p1, cmd.p2] hpos
  obtain ⟨n, hn⟩ := Iso9797.pad_isOk (sm.ssc.toBytes ++ (header ++ dataDo ++ do97)) hpos
  obtain ⟨cc, hcc, hcclen⟩ := mac_of_pad law hn
  obtain ⟨do8e, h8e⟩ := Sm.buildDo_isOk Sm.tagDo8E cc (by decide) (by omega)
  exact ⟨_, protectBody_eq_ok.mpr
    ⟨dataDo, do97, header, n, cc, do8e, hdata, h97, hheader, hn, hcc, h8e, rfl⟩⟩

/-- The protection of `cmd` either fails or announces its true length. -/
def AnnouncesLength (sm : MrtdSM) (cmd : CommandApdu) : Prop :=
  ∀ (wire : CommandApdu) (sm' : MrtdSM), protect cmd sm = (.ok wire, sm') →
    CommandApdu.lcField wire.toBytes = wire.body.length

/-- **The Lc field of a protected command.**  For every command the constructor accepts, either
cipher, and any counter: `protect` fails or returns a command whose Lc field is the length of its
data field, if and only if the session cannot encrypt the data at all, or the protected data field
is at most 65535 bytes long. -/
theorem protect_lc_iff {P : Primitives} (sm : MrtdSM) (hcipher : sm.cipher.Implemented P)
    {cla ins p1 p2 : UInt8} {data : Option Bytes} {ne : Nat} {cmd : CommandApdu}
    (hnew : CommandApdu.new cla ins p1 p2 data ne = .ok cmd) :
    AnnouncesLength sm cmd ↔
      (cmd.body ≠ [] ∧ ¬ sm.cipher.cipherAlgorithm.TakesCounter sm.ssc.increment) ∨
        protectedLength sm.cipher.cipherAlgorithm.blockSize cmd ≤ 65535 := by
  have hlim := (CommandApdu.new_eq_ok.mp hnew).2
  have hkeeps := hcipher.keepsLengths
  have hlc : ∀ wire, sm.advance.protectBody cmd = .ok wire →
      (CommandApdu.lcField wire.toBytes = wire.body.length ↔
        protectedLength sm.cipher.cipherAlgorithm.blockSize cmd ≤ 65535) := by
    intro wire hwire
    have hlen := length_protectBody sm.advance hkeeps hlim.2 hwire
    rw [advance_cipher] at hlen
    have hne : wire.body ≠ [] := by
      refine List.ne_nil_of_length_pos ?_
      rw [hlen, protectedLength]
      omega
    rw [CommandApdu.lcField_eq_length_iff hne, hlen]
  constructor
  · intro h
    by_cases hrefused : cmd.body ≠ [] ∧ ¬ sm.cipher.cipherAlgorithm.TakesCounter sm.ssc.increment
    · exact .inl hrefused
    right
    by_cases hcounter : sm.cipher.cipherAlgorithm.TakesCounter sm.ssc.increment
    · obtain ⟨wire, hwire⟩ := protectBody_isOk sm.advance (hcipher.lawful hcounter) hlim
      refine (hlc wire hwire).mp (h wire sm.advance ?_)
      rw [protect_apply, hwire]
    · -- without data the protected field is at most fourteen bytes
      have hbody : cmd.body = [] := by
        by_contra hne
        exact hrefused ⟨hne, hcounter⟩
      rw [protectedLength, hbody, List.length_nil, Sm.dataDoLength, if_pos rfl, Sm.do97Length]
      split
      · omega
      · split <;> omega
  · intro h wire sm' hwire
    rw [protect_apply, Prod.mk.injEq] at hwire
    refine (hlc wire hwire.1).mpr ?_
    refine h.resolve_left ?_
    rintro ⟨hbody, hcounter⟩
    obtain ⟨dataDo, -, -, -, -, -, hdata, -⟩ := protectBody_eq_ok.mp hwire.1
    have hmasked : { cmd with cla := maskCla cmd.cla }.body ≠ [] := hbody
    obtain ⟨padded, edata, -, henc, -⟩ := (generateDataDo_eq_ok hmasked).mp hdata
    exact hcipher.encrypt_ne_ok hcounter padded edata henc

/-- A 3DES session at counter zero under zero keys. -/
lemma desSession_isOk : ∃ cipher : DesSmCipher,
    DesSmCipher.new (List.replicate 16 0) (List.replicate 16 0) = .ok cipher :=
  DesSmCipher.new_isOk (.inl List.length_replicate) (.inl List.length_replicate)

/-- Such a session announces the length of the protected form of a SELECT. -/
theorem protect_lc_iff_select : ∃ cipher : DesSmCipher,
    DesSmCipher.new (List.replicate 16 0) (List.replicate 16 0) = .ok cipher ∧
      AnnouncesLength ⟨cipher.toSmCipher .transparent, Ssc.zero64⟩
        ⟨0x00, Ins.selectFile, 0x02, 0x0C, some [0x01, 0x1E], 0⟩ := by
  obtain ⟨cipher, hcipher⟩ := desSession_isOk
  have hnew : CommandApdu.new 0x00 Ins.selectFile 0x02 0x0C (some [0x01, 0x1E]) 0 =
      .ok ⟨0x00, Ins.selectFile, 0x02, 0x0C, some [0x01, 0x1E], 0⟩ := rfl
  refine ⟨cipher, hcipher, ?_⟩
  refine (protect_lc_iff ⟨cipher.toSmCipher .transparent, Ssc.zero64⟩ (.des cipher) hnew).mpr (.inr ?_)
  have hlen : protectedLength 8 ⟨0x00, Ins.selectFile, 0x02, 0x0C, some [0x01, 0x1E], 0⟩ = 21 := by
    decide +kernel
  exact hlen.le.trans (by decide)

/-- An UPDATE BINARY with 65535 bytes of data, the most the constructor accepts. -/
def longestUpdate : CommandApdu := ⟨0x00, 0xD6, 0, 0, some (List.replicate 65535 0), 0⟩

lemma protectedLength_longestUpdate : protectedLength 8 longestUpdate = 65552 := by
  have hbody : longestUpdate.body.length = 65535 := List.length_replicate
  have hins : decide (longestUpdate.ins = Ins.readBinaryExt) = false := by decide
  have hne : longestUpdate.ne = 0 := rfl
  rw [protectedLength, hbody, hins, hne]
  decide

/-- Its protected form is 65552 bytes long, and its Lc field says 16. -/
theorem protect_lc_wraps : ∃ cipher : DesSmCipher,
    DesSmCipher.new (List.replicate 16 0) (List.replicate 16 0) = .ok cipher ∧
      CommandApdu.new 0x00 0xD6 0 0 (some (List.replicate 65535 0)) 0 = .ok longestUpdate ∧
      (∃ wire sm', protect longestUpdate ⟨cipher.toSmCipher .transparent, Ssc.zero64⟩ =
        (.ok wire, sm') ∧ wire.body.length = 65552 ∧ CommandApdu.lcField wire.toBytes = 16) ∧
      ¬ AnnouncesLength ⟨cipher.toSmCipher .transparent, Ssc.zero64⟩ longestUpdate := by
  obtain ⟨cipher, hcipher⟩ := desSession_isOk
  have hlim : longestUpdate.InLimits :=
    ⟨(List.length_replicate (n := 65535) (a := (0 : UInt8))).le, by decide⟩
  have himpl : (cipher.toSmCipher .transparent).Implemented .transparent := .des cipher
  let sm : MrtdSM := ⟨cipher.toSmCipher .transparent, Ssc.zero64⟩
  obtain ⟨wire, hwire⟩ := protectBody_isOk sm.advance
    (cipher.lawful .transparent sm.advance.ssc.bitSize) hlim
  have hlen : wire.body.length = 65552 := by
    rw [length_protectBody sm.advance himpl.keepsLengths hlim.2 hwire]
    exact protectedLength_longestUpdate
  have hlc : CommandApdu.lcField wire.toBytes = 16 := by
    rw [CommandApdu.lcField_toBytes (List.ne_nil_of_length_pos (by omega)), hlen]
    rfl
  have hprotect : protect longestUpdate sm = (.ok wire, sm.advance) := by
    rw [protect_apply, hwire]
  refine ⟨cipher, hcipher, CommandApdu.new_eq_ok.mpr ⟨rfl, hlim⟩,
    ⟨wire, sm.advance, hprotect, hlen, hlc⟩, ?_⟩
  intro h
  have hannounced := h wire sm.advance hprotect
  omega

end MrtdSM

end Dmrtd
