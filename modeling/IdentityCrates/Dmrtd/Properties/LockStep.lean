import IdentityCrates.Lib.Machine
import IdentityCrates.Dmrtd.Proto.Chip

/-!
# Terminal and chip in lock-step

A terminal and an ICAO chip that start a session with the same cipher and the same counter stay in
step for as long as they exchange commands and answers: the chip reads back what the terminal meant,
the terminal reads back what the chip answered, and after every exchange the counters agree again.

The cipher is any lawful one (`SmCipher.Lawful`).  Both directions rest on one fact about a sealed
data object (`Seals`): it parses as a data object that decrypts to what was sealed.
-/

namespace Dmrtd

open Rust Octets

/-! ## Sealed data objects -/

/-- `bytes` is the data object that carries `data` under `cipher` and `ssc`: nothing when there is
no data, else a `DO'85'`, or a `DO'87'` with padding indicator `01`, over the padded ciphertext. -/
inductive Seals (cipher : SmCipher) (ssc : Ssc) : Bytes → Bytes → Prop
  | absent : Seals cipher ssc [] []
  | do85 {data padded edata bytes} (hne : data ≠ [])
      (hpad : Iso9797.pad data cipher.cipherAlgorithm.blockSize = .ok padded)
      (henc : cipher.encrypt padded (some ssc) = .ok edata)
      (hdo : (Tlv.encode Sm.tagDo85 edata : Outcome TlvError Bytes) = .ok bytes) :
      Seals cipher ssc data bytes
  | do87 {data padded edata bytes} (hne : data ≠ [])
      (hpad : Iso9797.pad data cipher.cipherAlgorithm.blockSize = .ok padded)
      (henc : cipher.encrypt padded (some ssc) = .ok edata)
      (hdo : (Tlv.encode Sm.tagDo87 (0x01 :: edata) : Outcome TlvError Bytes) = .ok bytes) :
      Seals cipher ssc data bytes

/-- An encoding does not depend on the error type it is used at. -/
lemma Tlv.encode_eq_ok_congr {ε ε' : Type} {tag : Nat} {data bytes : Bytes} :
    (Tlv.encode tag data : Outcome ε Bytes) = .ok bytes ↔
      (Tlv.encode tag data : Outcome ε' Bytes) = .ok bytes := by
  rw [Tlv.encode_eq_ok, Tlv.encode_eq_ok]

section Sealed

variable {cipher : SmCipher} {ssc : Ssc} (law : cipher.Lawful ssc.bitSize)

include law

/-- Under a lawful cipher the ciphertext of padded data decrypts to it and is as long. -/
lemma decrypt_of_pad {data padded edata : Bytes}
    (hpad : Iso9797.pad data cipher.cipherAlgorithm.blockSize = .ok padded)
    (henc : cipher.encrypt padded (some ssc) = .ok edata) :
    cipher.decrypt edata (some ssc) = .ok padded ∧ edata.length = padded.length ∧
      Iso9797.unpad padded cipher.cipherAlgorithm.blockSize = .ok data := by
  have hpos := cipher.cipherAlgorithm.blockSize_pos
  have hmod := (Iso9797.length_pad hpos hpad).1
  exact ⟨law.decrypt_encrypt _ _ _ rfl hmod henc, law.length_encrypt _ _ _ rfl hmod henc,
    Iso9797.unpad_pad hpos hpad⟩

/-- A sealed data object parses, and decrypts to what was sealed; no data and empty data are the
same. -/
lemma Seals.opens {data bytes : Bytes} (h : Seals cipher ssc data bytes) :
    ∃ dataTv, MrtdSM.IsDataDo bytes dataTv ∧
      MrtdSM.Decrypts cipher ssc dataTv (if data = [] then none else some data) ∧
      Chip.openData ⟨cipher, ssc⟩ dataTv = some data := by
  cases h with
  | absent => exact ⟨none, .absent, .absent, rfl⟩
  | @do85 _ padded edata _ hne hpad henc hdo =>
    obtain ⟨hdec, hlen, hunpad⟩ := decrypt_of_pad law hpad henc
    have hpos := (Iso9797.length_pad cipher.cipherAlgorithm.blockSize_pos hpad).2.1
    have hene : edata ≠ [] := List.ne_nil_of_length_pos (by omega)
    refine ⟨_, .do85 (MrtdSM.IsDo.of_encode (by decide) hdo), ?_, ?_⟩
    · rw [if_neg hne]
      exact .do85 rfl hene hdec hunpad
    · simp only [Chip.openData, Chip.cryptogram, Sm.tagDo85, Chip.blockSize, hdec, hunpad,
        Outcome.toOption_ok, Option.bind_eq_bind, Option.bind_some, Nat.reduceEqDiff, if_false]
  | @do87 _ padded edata _ hne hpad henc hdo =>
    obtain ⟨hdec, -, hunpad⟩ := decrypt_of_pad law hpad henc
    refine ⟨_, .do87 (MrtdSM.IsDo.of_encode (by decide) hdo), ?_, ?_⟩
    · rw [if_neg hne]
      exact .do87Padded rfl rfl hdec hunpad
    · simp only [Chip.openData, Chip.cryptogram, Sm.tagDo87, Chip.blockSize, hdec, hunpad,
        Outcome.toOption_ok, Option.bind_eq_bind, Option.bind_some, if_true]

/-- The MAC of a padded counter and message. -/
lemma mac_of_pad {msg n : Bytes}
    (hpad : Iso9797.pad (ssc.toBytes ++ msg) cipher.cipherAlgorithm.blockSize = .ok n) :
    ∃ cc, cipher.mac n = .ok cc ∧ cc.length = 8 := by
  obtain ⟨hmod, hlt, -⟩ := Iso9797.length_pad cipher.cipherAlgorithm.blockSize_pos hpad
  exact law.mac_isOk n (List.ne_nil_of_length_pos (by omega)) hmod

end Sealed

/-! ## The chip reads a protected command -/

namespace Chip

lemma takeDo_of_isDo {tag : Nat} {bytes : Bytes} {tv : DecodedTv} (h : MrtdSM.IsDo tag bytes tv)
    {tags : List UInt8} (htag : UInt8.ofNat tag ∈ tags) (rest : Bytes) :
    takeDo tags (bytes ++ rest) = some (some tv, rest) := by
  have hdec := Tlv.decode_append h.decoded rest
  have hdrop : (bytes ++ rest).drop tv.encodedLen = rest := by
    rw [h.whole]
    exact List.drop_left' rfl
  obtain ⟨tl, rfl⟩ := h.eq_cons
  rw [List.cons_append] at hdec hdrop ⊢
  rw [takeDo, if_pos htag, hdec, Outcome.toOption_ok, Option.map_some, hdrop]

lemma takeDo_of_head {tags : List UInt8} {xs : Bytes} (h : ∀ b ∈ xs.head?, b ∉ tags) :
    takeDo tags xs = some (none, xs) := by
  rcases xs with _ | ⟨b, tl⟩
  · rfl
  · rw [takeDo, if_neg (h b rfl)]

lemma takeDo_of_isDataDo {bytes rest : Bytes} {dataTv : Option DecodedTv}
    (h : MrtdSM.IsDataDo bytes dataTv) (hrest : ∀ b ∈ rest.head?, b ∉ [0x85, 0x87]) :
    takeDo [0x85, 0x87] (bytes ++ rest) = some (dataTv, rest) := by
  cases h with
  | absent => exact takeDo_of_head hrest
  | do85 hdo => exact takeDo_of_isDo hdo (by decide) rest
  | do87 hdo => exact takeDo_of_isDo hdo (by decide) rest

/-- `bytes` is what announces the expected length `ne`: nothing, or a `DO'97'`. -/
inductive IsNeDo : Bytes → Option DecodedTv → Nat → Prop
  | absent : IsNeDo [] none 0
  | do97 {bytes tv} (h : MrtdSM.IsDo Sm.tagDo97 bytes tv) : IsNeDo bytes (some tv) (readNe (some tv))

lemma IsNeDo.readNe_eq {bytes : Bytes} {neTv : Option DecodedTv} {ne : Nat}
    (h : IsNeDo bytes neTv ne) : readNe neTv = ne := by
  cases h <;> rfl

lemma IsNeDo.head {bytes rest : Bytes} {neTv : Option DecodedTv} {ne : Nat}
    (h : IsNeDo bytes neTv ne) (hrest : rest.head? = some 0x8E) :
    ∀ b ∈ (bytes ++ rest).head?, b ∉ [0x85, 0x87] := by
  cases h with
  | absent =>
    rw [List.nil_append, hrest]
    rintro b ⟨⟩
    decide
  | do97 hdo =>
    obtain ⟨tl, rfl⟩ := hdo.eq_cons
    rintro b ⟨⟩
    decide

lemma takeDo_of_isNeDo {bytes rest : Bytes} {neTv : Option DecodedTv} {ne : Nat}
    (h : IsNeDo bytes neTv ne) (hrest : rest.head? = some 0x8E) :
    takeDo [0x97] (bytes ++ rest) = some (neTv, rest) := by
  cases h with
  | absent =>
    rw [List.nil_append, takeDo_of_head]
    rw [hrest]
    rintro b ⟨⟩
    decide
  | do97 hdo => exact takeDo_of_isDo hdo (by decide) rest

/-- A command that is laid out as ICAO 9303 says, with a MAC that verifies, is accepted. -/
lemma unwrap_eq_some {chip : Chip} {apduHeader dataDo do97 do8e data header n : Bytes} {ne : Nat}
    {dataTv neTv : Option DecodedTv} {macTv : DecodedTv} {wireNe : Nat}
    (hsm : apduHeader.headD 0 &&& Cla.smHeaderAuthn = Cla.smHeaderAuthn)
    (hdata : MrtdSM.IsDataDo dataDo dataTv) (hne : IsNeDo do97 neTv ne)
    (hmac : MrtdSM.IsDo Sm.tagDo8E do8e macTv) (hopen : chip.openData dataTv = some data)
    (hheader : Iso9797.pad apduHeader chip.blockSize = .ok header)
    (hn : Iso9797.pad (chip.ssc.toBytes ++ (header ++ dataDo ++ do97)) chip.blockSize = .ok n)
    (hcc : chip.cipher.mac n = .ok macTv.value) :
    chip.unwrap ⟨apduHeader, dataDo ++ do97 ++ do8e, wireNe⟩ =
      some ⟨plainHeader apduHeader, data, ne⟩ := by
  have hhead : do8e.head? = some 0x8E := hmac.head
  have htake₁ : takeDo [0x85, 0x87] (dataDo ++ do97 ++ do8e) = some (dataTv, do97 ++ do8e) := by
    rw [List.append_assoc]
    exact takeDo_of_isDataDo hdata (hne.head hhead)
  have htake₂ : takeDo [0x97] (do97 ++ do8e) = some (neTv, do8e) := takeDo_of_isNeDo hne hhead
  have htake₃ : takeDo [0x8E] do8e = some (some macTv, []) := by
    have h : takeDo [0x8E] (do8e ++ []) = some (some macTv, []) :=
      takeDo_of_isDo hmac (by decide) []
    rwa [List.append_nil] at h
  have hcovered : (dataDo ++ do97 ++ do8e).take
      ((dataDo ++ do97 ++ do8e).length - do8e.length) = dataDo ++ do97 := by
    refine List.take_left' ?_
    simp only [List.length_append]
    omega
  rw [List.append_assoc] at hn
  simp only [unwrap, guard, hsm, if_true, htake₁, htake₂, htake₃, hcovered, hheader, hn, hcc, hopen,
    hne.readNe_eq, Outcome.toOption_ok, Option.bind_eq_bind, Option.bind_some, Option.pure_def]

end Chip

/-! ## The terminal protects a command -/

namespace MrtdSM

variable {sm : MrtdSM}

lemma generateDataDo_of_body_nil {cmd : CommandApdu} (h : cmd.body = []) :
    sm.generateDataDo cmd = .ok [] := by
  obtain ⟨cla, ins, p1, p2, _ | data, ne⟩ := cmd
  · rfl
  · have hdata : data = [] := h
    subst hdata
    rfl

lemma generateDataDo_eq_ok {cmd : CommandApdu} (h : cmd.body ≠ []) {bytes : Bytes} :
    sm.generateDataDo cmd = .ok bytes ↔
      ∃ padded edata, Iso9797.pad cmd.body sm.cipher.cipherAlgorithm.blockSize = .ok padded ∧
        sm.cipher.encrypt padded (some sm.ssc) = .ok edata ∧
        (if cmd.ins = Ins.readBinaryExt then Sm.do85 edata else Sm.do87 edata true) =
          .ok bytes := by
  obtain ⟨cla, ins, p1, p2, _ | data, ne⟩ := cmd
  · exact absurd rfl h
  · have hdata : (!data.isEmpty) = true := by simpa [CommandApdu.body] using h
    simp only [generateDataDo, hdata, if_true, blockLen_eq, Outcome.ok_bind, Outcome.bind_eq_ok,
      Outcome.mapErr_eq_ok, CommandApdu.body, Option.getD_some]
    exact ⟨fun ⟨p, hp, e, he, hb⟩ => ⟨p, e, hp, he, hb⟩, fun ⟨p, e, hp, he, hb⟩ => ⟨p, hp, e, he, hb⟩⟩

/-- Under a lawful cipher the data object of any command in limits can be built, and it seals the
data field. -/
lemma generateDataDo_seals (sm : MrtdSM) (law : sm.cipher.Lawful sm.ssc.bitSize)
    (cmd : CommandApdu) (hlim : cmd.body.length ≤ 0xFFFF) :
    ∃ bytes, sm.generateDataDo cmd = .ok bytes ∧ Seals sm.cipher sm.ssc cmd.body bytes := by
  by_cases hbody : cmd.body = []
  · refine ⟨[], generateDataDo_of_body_nil hbody, ?_⟩
    rw [hbody]
    exact .absent
  have hpos := sm.cipher.cipherAlgorithm.blockSize_pos
  have hbs : sm.cipher.cipherAlgorithm.blockSize ≤ 16 := by
    cases sm.cipher.cipherAlgorithm <;> decide
  obtain ⟨padded, hpad⟩ := Iso9797.pad_isOk cmd.body hpos
  obtain ⟨hmod, hlt, hle⟩ := Iso9797.length_pad hpos hpad
  obtain ⟨edata, henc⟩ := law.encrypt_isOk padded sm.ssc rfl hmod
  have hlen := law.length_encrypt padded edata sm.ssc rfl hmod henc
  have hene : edata ≠ [] := List.ne_nil_of_length_pos (by omega)
  by_cases hins : cmd.ins = Ins.readBinaryExt
  · obtain ⟨bytes, hbytes⟩ := Sm.buildDo_isOk Sm.tagDo85 edata (by decide) (by omega)
    refine ⟨bytes, (generateDataDo_eq_ok hbody).mpr ⟨padded, edata, hpad, henc, ?_⟩, ?_⟩
    · rw [if_pos hins]
      exact hbytes
    · exact .do85 hbody hpad henc
        (Tlv.encode_eq_ok_congr.mp ((Sm.buildDo_eq_ok (by decide) hene).mp hbytes))
  · obtain ⟨bytes, hbytes⟩ := Sm.buildDo_isOk Sm.tagDo87 (0x01 :: edata) (by decide)
      (by rw [List.length_cons]; omega)
    refine ⟨bytes, (generateDataDo_eq_ok hbody).mpr ⟨padded, edata, hpad, henc, ?_⟩, ?_⟩
    · rw [if_neg hins, Sm.do87, if_neg (by simpa using hene)]
      exact hbytes
    · exact .do87 hbody hpad henc
        (Tlv.encode_eq_ok_congr.mp
          ((Sm.buildDo_eq_ok (by decide) (List.cons_ne_nil _ _)).mp hbytes))

end MrtdSM

/-- The `DO'97'` of every expected length up to 65536 can be built and announces that length. -/
lemma Sm.do97_isNeDo {ne : Nat} (hle : ne ≤ 65536) :
    ∃ bytes neTv, Sm.do97 ne = .ok bytes ∧ Chip.IsNeDo bytes neTv ne := by
  have hdo : ∀ value : Bytes, value ≠ [] → value.length ≤ 0xFFFFFF →
      ∃ bytes, Sm.buildDo Sm.tagDo97 value = .ok bytes ∧
        Chip.IsNeDo bytes (some ⟨⟨Sm.tagDo97, 1⟩, value, bytes.length⟩)
          (Chip.readNe (some ⟨⟨Sm.tagDo97, 1⟩, value, bytes.length⟩)) := by
    intro value hne hlen
    obtain ⟨bytes, hbytes⟩ := Sm.buildDo_isOk Sm.tagDo97 value (by decide) hlen
    exact ⟨bytes, hbytes, .do97 (MrtdSM.IsDo.of_encode (by decide)
      ((Sm.buildDo_eq_ok (by decide) hne).mp hbytes))⟩
  by_cases h256 : ne = 256
  · obtain ⟨bytes, hbytes, hneDo⟩ := hdo [0] (by decide) (by decide)
    refine ⟨bytes, _, ?_, by rw [h256]; exact hneDo⟩
    rw [Sm.do97, if_pos (.inl h256), if_pos h256]
    exact hbytes
  by_cases h64k : ne = 65536
  · obtain ⟨bytes, hbytes, hneDo⟩ := hdo [0, 0] (by decide) (by decide)
    refine ⟨bytes, _, ?_, by rw [h64k]; exact hneDo⟩
    rw [Sm.do97, if_pos (.inr h64k), if_neg h256]
    exact hbytes
  have hval : ofBE (intToBin ne 0) = ne := ofBE_intToBin_zero (by omega)
  have hbuild : Sm.do97 ne = Sm.buildDo Sm.tagDo97 (intToBin ne 0) := by
    rw [Sm.do97, if_neg (by omega)]
  rw [hbuild]
  by_cases h0 : ne = 0
  · subst h0
    exact ⟨[], none, Sm.buildDo_nil (by decide), .absent⟩
  · have hne : intToBin ne 0 ≠ [] := by
      intro hnil
      rw [hnil, ofBE_nil] at hval
      omega
    obtain ⟨bytes, hbytes, hneDo⟩ := hdo (intToBin ne 0) hne (by
      have := length_intToBin_zero_le ne
      omega)
    -- a nonzero number is neither of the two zero placeholders
    have hread : Chip.readNe (some ⟨⟨Sm.tagDo97, 1⟩, intToBin ne 0, bytes.length⟩) = ne := by
      have h1 : intToBin ne 0 ≠ [0] := by
        intro h
        rw [h, ofBE_singleton] at hval
        exact h0 hval.symm
      have h2 : intToBin ne 0 ≠ [0, 0] := by
        intro h
        rw [h] at hval
        exact h0 hval.symm
      rw [Chip.readNe, if_neg h1, if_neg h2, hval]
    rw [hread] at hneDo
    exact ⟨bytes, _, hbytes, hneDo⟩

namespace MrtdSM

lemma maskCla_and_sm (b : UInt8) : maskCla b &&& Cla.smHeaderAuthn = Cla.smHeaderAuthn := by
  revert b
  refine forall_byte ?_
  decide +kernel

lemma maskCla_and_plain (b : UInt8) : maskCla b &&& 0xF3 = b &&& 0xF3 := by
  revert b
  refine forall_byte ?_
  decide +kernel

lemma cla_and_plain (b : UInt8) (h : b &&& Cla.smHeaderAuthn = 0) : b &&& 0xF3 = b := by
  revert b
  refine forall_byte ?_
  decide +kernel

/-- The protected form of a command fits an APDU, at every counter value of width `bitSize`. -/
def FitsWire (cipher : SmCipher) (bitSize : Nat) (cmd : CommandApdu) : Prop :=
  ∀ (ssc : Ssc) (wire : CommandApdu), ssc.bitSize = bitSize →
    (MrtdSM.mk cipher ssc).protectBody cmd = .ok wire → wire.body.length ≤ 0xFFFF

/-- A chip at the same counter accepts a protected command and recovers the header, the class byte
without its secure messaging bits, the data field and the expected length. -/
theorem protectBody_accepted {cipher : SmCipher} (ssc : Ssc) (law : cipher.Lawful ssc.bitSize)
    {cmd : CommandApdu} (hlim : cmd.InLimits) (hfit : FitsWire cipher ssc.bitSize cmd) :
    ∃ wire, (MrtdSM.mk cipher ssc).protectBody cmd = .ok wire ∧
      (CommandApdu.parse wire.toBytes).bind (Chip.mk cipher ssc).unwrap =
        some ⟨Chip.plainHeader cmd.rawHeader, cmd.body, cmd.ne⟩ := by
  obtain ⟨hbody, hne⟩ := hlim
  have hpos := cipher.cipherAlgorithm.blockSize_pos
  let masked : CommandApdu := { cmd with cla := maskCla cmd.cla }
  obtain ⟨dataDo, hdata, hseals⟩ := generateDataDo_seals ⟨cipher, ssc⟩ law masked hbody
  obtain ⟨do97, neTv, h97, hneDo⟩ := Sm.do97_isNeDo hne
  obtain ⟨header, hheader⟩ := Iso9797.pad_isOk masked.rawHeader hpos
  obtain ⟨n, hn⟩ := Iso9797.pad_isOk (ssc.toBytes ++ (header ++ dataDo ++ do97)) hpos
  obtain ⟨cc, hcc, hcclen⟩ := mac_of_pad law hn
  have hccne : cc ≠ [] := List.ne_nil_of_length_pos (by omega)
  obtain ⟨do8e, h8e⟩ := Sm.buildDo_isOk Sm.tagDo8E cc (by decide) (by omega)
  have hwire : (MrtdSM.mk cipher ssc).protectBody cmd =
      .ok ⟨maskCla cmd.cla, cmd.ins, cmd.p1, cmd.p2, some (dataDo ++ do97 ++ do8e), 256⟩ :=
    protectBody_eq_ok.mpr
      ⟨dataDo, do97, header, n, cc, do8e, hdata, h97, hheader, hn, hcc, h8e, rfl⟩
  refine ⟨_, hwire, ?_⟩
  rw [CommandApdu.parse_toBytes ⟨hfit ssc _ rfl hwire, by simp only; omega⟩, Option.bind_some]
  obtain ⟨dataTv, hdataTv, -, hopen⟩ := Seals.opens law hseals
  have hmac := IsDo.of_encode (by decide) ((Sm.buildDo_eq_ok (by decide) hccne).mp h8e)
  have hunwrap : (Chip.mk cipher ssc).unwrap ⟨masked.rawHeader, dataDo ++ do97 ++ do8e, 256⟩ =
      some ⟨Chip.plainHeader masked.rawHeader, cmd.body, cmd.ne⟩ :=
    Chip.unwrap_eq_some (maskCla_and_sm cmd.cla) hdataTv hneDo hmac hopen hheader hn hcc
  rw [CommandApdu.rawHeader, Chip.plainHeader, maskCla_and_plain cmd.cla] at hunwrap
  exact hunwrap

end MrtdSM

/-! ## The terminal reads a protected answer -/

namespace Chip

lemma encodeDo_isSome (tag : Nat) (value : Bytes) (h : value.length ≤ 0xFFFFFF) :
    ∃ bytes, encodeDo tag value = some bytes := by
  obtain ⟨bytes, hbytes⟩ : ∃ bytes, (Tlv.encode tag value : Outcome TlvError Bytes) = .ok bytes :=
    Tlv.encode_isOk h
  exact ⟨bytes, Outcome.toOption_eq_some.mpr hbytes⟩

/-- Answer data that a data object with a three-byte length can carry, once padded and behind a
padding-content indicator. -/
def FitsDo (cipher : SmCipher) (data : Bytes) : Prop :=
  data.length + (cipher.cipherAlgorithm.blockSize -
    data.length % cipher.cipherAlgorithm.blockSize) + 1 ≤ 0xFFFFFF

instance (cipher : SmCipher) (data : Bytes) : Decidable (FitsDo cipher data) :=
  inferInstanceAs (Decidable (_ ≤ _))

lemma sealData_seals {cipher : SmCipher} {ssc : Ssc} (law : cipher.Lawful ssc.bitSize)
    (useDo85 : Bool) {data : Bytes} (hfit : FitsDo cipher data) :
    ∃ bytes, (Chip.mk cipher ssc).sealData useDo85 data = some bytes ∧
      Seals cipher ssc data bytes := by
  by_cases hdata : data = []
  · refine ⟨[], by rw [sealData, if_pos hdata], ?_⟩
    rw [hdata]
    exact .absent
  unfold FitsDo at hfit
  have hpos := cipher.cipherAlgorithm.blockSize_pos
  obtain ⟨padded, hpad⟩ := Iso9797.pad_isOk data hpos
  have hpadded := Iso9797.length_pad_eq hpos hpad
  have hmod := (Iso9797.length_pad hpos hpad).1
  obtain ⟨edata, henc⟩ := law.encrypt_isOk padded ssc rfl hmod
  have hlen := law.length_encrypt padded edata ssc rfl hmod henc
  have hseal : ∀ bytes, (if useDo85 then encodeDo 0x85 edata else encodeDo 0x87 (0x01 :: edata)) =
      some bytes → (Chip.mk cipher ssc).sealData useDo85 data = some bytes := by
    intro bytes hbytes
    simp only [sealData, if_neg hdata, blockSize, hpad, henc, Outcome.toOption_ok,
      Option.bind_eq_bind, Option.bind_some]
    exact hbytes
  cases useDo85 with
  | true =>
    obtain ⟨bytes, hbytes⟩ := encodeDo_isSome Sm.tagDo85 edata (by omega)
    exact ⟨bytes, hseal bytes hbytes,
      .do85 hdata hpad henc (Outcome.toOption_eq_some.mp hbytes)⟩
  | false =>
    obtain ⟨bytes, hbytes⟩ := encodeDo_isSome Sm.tagDo87 (0x01 :: edata)
      (by rw [List.length_cons]; omega)
    exact ⟨bytes, hseal bytes hbytes,
      .do87 hdata hpad henc (Outcome.toOption_eq_some.mp hbytes)⟩

/-- The terminal at the same counter accepts a wrapped answer and reads back its status and data,
empty data as none. -/
theorem wrap_accepted {cipher : SmCipher} (ssc : Ssc) (law : cipher.Lawful ssc.bitSize)
    (useDo85 : Bool) (sw : StatusWord) {data : Bytes} (hfit : FitsDo cipher data) :
    ∃ body, (Chip.mk cipher ssc).wrap useDo85 sw data = some (body ++ sw.toBytes) ∧ body ≠ [] ∧
      (MrtdSM.mk cipher ssc).unprotectBody ⟨sw, some body⟩ =
        .ok ⟨sw, if data = [] then none else some data⟩ := by
  have hpos := cipher.cipherAlgorithm.blockSize_pos
  obtain ⟨dataDo, hseal, hseals⟩ := sealData_seals law useDo85 hfit
  obtain ⟨do99, h99⟩ := encodeDo_isSome Sm.tagDo99 sw.toBytes (by simp [StatusWord.toBytes])
  obtain ⟨k, hk⟩ := Iso9797.pad_isOk (ssc.toBytes ++ (dataDo ++ do99)) hpos
  obtain ⟨cc, hcc, hcclen⟩ := mac_of_pad law hk
  obtain ⟨do8e, h8e⟩ := encodeDo_isSome Sm.tagDo8E cc (by omega)
  obtain ⟨dataTv, hdataTv, hdec, -⟩ := Seals.opens law hseals
  have h99Do := MrtdSM.IsDo.of_encode (by decide) (Outcome.toOption_eq_some.mp h99)
  have h8eDo := MrtdSM.IsDo.of_encode (by decide) (Outcome.toOption_eq_some.mp h8e)
  refine ⟨dataDo ++ do99 ++ do8e, ?_, ?_, ?_⟩
  · have h99' : encodeDo 0x99 sw.toBytes = some do99 := h99
    have h8e' : encodeDo 0x8E cc = some do8e := h8e
    simp only [wrap, hseal, h99', blockSize, hk, hcc, h8e', Outcome.toOption_ok,
      Option.bind_eq_bind, Option.bind_some, Option.pure_def]
  · simp [h99Do.ne_nil]
  · refine MrtdSM.unprotectBody_eq_ok.mpr ⟨dataTv, _, _, MrtdSM.parses_iff.mpr
      ⟨dataDo, do99, do8e, [], (List.append_nil _).symm, hdataTv, h99Do, h8eDo⟩, ⟨k, ?_, hcc⟩, hdec,
      StatusWord.fromBytes_zero _ _ _⟩
    have hcovered : (dataDo ++ do99 ++ do8e).take (MrtdSM.encodedLen dataTv + do99.length) =
        dataDo ++ do99 := by
      rw [hdataTv.encodedLen_eq]
      exact List.take_left' (by rw [List.length_append])
    rw [hcovered]
    exact hk

end Chip

/-! ## Runs -/

/-- One exchange: a command, and what the chip answers to it. -/
structure Exchange where
  cmd : CommandApdu
  useDo85 : Bool
  sw : StatusWord
  data : Bytes

namespace Exchange

/-- What the two sides make of an exchange: the command as the chip recovered it and the response
`unprotect` returned. -/
structure Seen where
  received : Option CommandApdu.Wire
  returned : Option ResponseApdu
  deriving DecidableEq, Repr

/-- One exchange over the wire. -/
def step (e : Exchange) : MrtdSM × Chip → Seen × (MrtdSM × Chip)
  | (sm, chip) =>
    match MrtdSM.protect e.cmd sm with
    | (.ok wire, sm₁) =>
      let (received, chip₁) := chip.receive wire.toBytes
      let (answer, chip₂) := chip₁.respond e.useDo85 e.sw e.data
      match answer.bind fun bytes => (ResponseApdu.fromBytes bytes).toOption with
      | some rapdu =>
        let (returned, sm₂) := MrtdSM.unprotect rapdu sm₁
        (⟨received, returned.toOption⟩, (sm₂, chip₂))
      | none => (⟨received, none⟩, (sm₁, chip₂))
    | (_, sm₁) => (⟨none, none⟩, (sm₁, chip))

/-- The command is one `CommandApdu::new` accepts, its protected form fits an APDU, and the answer
fits a data object. -/
structure Fits (cipher : SmCipher) (bitSize : Nat) (e : Exchange) : Prop where
  inLimits : e.cmd.InLimits
  fitsWire : MrtdSM.FitsWire cipher bitSize e.cmd
  fitsDo : Chip.FitsDo cipher e.data

/-- What the two sides should make of an exchange. -/
def meant (e : Exchange) : Seen where
  received := some ⟨Chip.plainHeader e.cmd.rawHeader, e.cmd.body, e.cmd.ne⟩
  returned := some ⟨e.sw, if e.data = [] then none else some e.data⟩

/-- Both sides hold the cipher `cipher` and the same counter, of width `bitSize`. -/
structure InStep (cipher : SmCipher) (bitSize : Nat) (s : MrtdSM × Chip) : Prop where
  terminal : s.1.cipher = cipher
  chip : s.2.cipher = cipher
  ssc : s.1.ssc = s.2.ssc
  width : s.1.ssc.bitSize = bitSize

/-- One exchange is understood by both sides and leaves them in step. -/
lemma step_inStep {cipher : SmCipher} {bitSize : Nat} (law : cipher.Lawful bitSize) (e : Exchange)
    (s : MrtdSM × Chip) (h : InStep cipher bitSize s) (he : e.Fits cipher bitSize) :
    (e.step s).1 = e.meant ∧ InStep cipher bitSize (e.step s).2 := by
  obtain ⟨⟨c, ssc⟩, ⟨c', ssc'⟩⟩ := s
  obtain ⟨h1, h2, h3, h4⟩ := h
  simp only at h1 h2 h3 h4
  subst h1 h2 h3 h4
  obtain ⟨wire, hwire, hrecv⟩ := MrtdSM.protectBody_accepted ssc.increment law he.inLimits
    he.fitsWire
  obtain ⟨body, hwrap, hbody, hun⟩ := Chip.wrap_accepted ssc.increment.increment law
    e.useDo85 e.sw he.fitsDo
  have hpar := ResponseApdu.fromBytes_append body e.sw
  rw [if_neg hbody] at hpar
  have hhas : MrtdSM.hasBody ⟨e.sw, some body⟩ = true := MrtdSM.hasBody_iff.mpr ⟨body, rfl, hbody⟩
  have hprotect : MrtdSM.protect e.cmd ⟨c', ssc⟩ = (.ok wire, ⟨c', ssc.increment⟩) :=
    Prod.ext hwire rfl
  have hreceive : (Chip.mk c' ssc).receive wire.toBytes =
      (some ⟨Chip.plainHeader e.cmd.rawHeader, e.cmd.body, e.cmd.ne⟩, ⟨c', ssc.increment⟩) :=
    Prod.ext hrecv rfl
  have hrespond : (Chip.mk c' ssc.increment).respond e.useDo85 e.sw e.data =
      (some (body ++ e.sw.toBytes), ⟨c', ssc.increment.increment⟩) :=
    Prod.ext hwrap rfl
  have hreturn : MrtdSM.unprotect ⟨e.sw, some body⟩ ⟨c', ssc.increment⟩ =
      (.ok ⟨e.sw, if e.data = [] then none else some e.data⟩, ⟨c', ssc.increment.increment⟩) := by
    rw [MrtdSM.unprotect_apply_body hhas]
    exact Prod.ext hun rfl
  have hstep : e.step (⟨c', ssc⟩, ⟨c', ssc⟩) =
      (e.meant, (⟨c', ssc.increment.increment⟩, ⟨c', ssc.increment.increment⟩)) := by
    simp only [step, hprotect, hreceive, hrespond, hpar, hreturn, Option.bind_some,
      Outcome.toOption_ok, meant]
  rw [hstep]
  exact ⟨rfl, ⟨rfl, rfl, rfl, rfl⟩⟩

end Exchange

/-- **Lock-step.**  From a shared cipher and counter, in a run of any length, the chip recovers of
every command the header (the class byte without its secure messaging bits, which is the whole
header when those were clear), the data field and the expected length; the terminal gets back
exactly the chip's status and data, empty data as none; and after every exchange the counters are
equal. -/
theorem lockStep {cipher : SmCipher} {ssc : Ssc} (law : cipher.Lawful ssc.bitSize)
    (es : List Exchange) (hes : ∀ e ∈ es, e.Fits cipher ssc.bitSize) :
    Machine.trace Exchange.step (⟨cipher, ssc⟩, ⟨cipher, ssc⟩) es =
      es.map (fun e => (e, e.meant)) ∧
    (∀ k : Nat, (Machine.final Exchange.step (⟨cipher, ssc⟩, ⟨cipher, ssc⟩) (es.take k)).1.ssc =
      (Machine.final Exchange.step (⟨cipher, ssc⟩, ⟨cipher, ssc⟩) (es.take k)).2.ssc) ∧
    (∀ e ∈ es, e.cmd.cla &&& Cla.smHeaderAuthn = 0 →
      Chip.plainHeader e.cmd.rawHeader = e.cmd.rawHeader) := by
  have hstart : Exchange.InStep cipher ssc.bitSize (⟨cipher, ssc⟩, ⟨cipher, ssc⟩) :=
    ⟨rfl, rfl, rfl, rfl⟩
  have hstep := Exchange.step_inStep law
  refine ⟨(Machine.trace_eq_map _ _ hstep hstart es hes).1, fun k => ?_, fun e _ hcla => ?_⟩
  · have hpre : ∀ e ∈ es.take k, e.Fits cipher ssc.bitSize :=
      fun e he => hes e (List.mem_of_mem_take he)
    exact (Machine.trace_eq_map _ _ hstep hstart (es.take k) hpre).2.ssc
  · rw [CommandApdu.rawHeader, Chip.plainHeader, MrtdSM.cla_and_plain _ hcla]

/-- Two commands that differ only in the secure messaging bits of the class byte protect to the same
bytes, so no chip can tell their headers apart. -/
theorem header_not_recoverable :
    ¬ ∃ recover : Bytes → Bytes, ∀ cmd wire : CommandApdu, cmd.InLimits →
      (MrtdSM.mk SmCipher.plain Ssc.zero64).protectBody cmd = .ok wire →
      recover wire.toBytes = cmd.rawHeader := by
  rintro ⟨recover, h⟩
  have h0 := h ⟨0x00, Ins.readBinary, 0, 0, none, 8⟩ _ (by decide) rfl
  have h4 := h ⟨0x04, Ins.readBinary, 0, 0, none, 8⟩ _ (by decide) rfl
  exact absurd (h0.symm.trans h4) (by decide)

/-! ## How long a protected command is -/

lemma Sm.length_buildDo_le {tag : Nat} {data bytes : Bytes} (htag : tag < 256)
    (h : Sm.buildDo tag data = .ok bytes) : bytes.length ≤ data.length + 5 := by
  by_cases hdata : data = []
  · rw [hdata, Sm.buildDo_nil htag] at h
    rw [← Outcome.ok.inj h]
    simp
  · exact Tlv.length_encode_le htag ((Sm.buildDo_eq_ok htag hdata).mp h)

lemma Sm.length_do97_le {ne : Nat} {bytes : Bytes} (h : Sm.do97 ne = .ok bytes) :
    bytes.length ≤ 13 := by
  rw [Sm.do97] at h
  split at h
  · have hlen := Sm.length_buildDo_le (by decide) h
    rw [List.length_replicate] at hlen
    split at hlen <;> omega
  · have hlen := Sm.length_buildDo_le (by decide) h
    have hle := length_intToBin_zero_le ne
    omega

lemma Seals.length_le {cipher : SmCipher} {ssc : Ssc} (law : cipher.Lawful ssc.bitSize)
    {data bytes : Bytes} (h : Seals cipher ssc data bytes) : bytes.length ≤ data.length + 22 := by
  have hpos := cipher.cipherAlgorithm.blockSize_pos
  have hbs : cipher.cipherAlgorithm.blockSize ≤ 16 := by
    cases cipher.cipherAlgorithm <;> decide
  cases h with
  | absent => simp
  | do85 hne hpad henc hdo =>
    have hlen := Tlv.length_encode_le (by decide) hdo
    have hcipher := (decrypt_of_pad law hpad henc).2.1
    have hpadded := (Iso9797.length_pad hpos hpad).2.2
    omega
  | do87 hne hpad henc hdo =>
    have hlen := Tlv.length_encode_le (by decide) hdo
    have hcipher := (decrypt_of_pad law hpad henc).2.1
    have hpadded := (Iso9797.length_pad hpos hpad).2.2
    rw [List.length_cons] at hlen
    omega

/-- A data field leaves room for the protection as soon as it is 48 bytes short of the limit. -/
lemma MrtdSM.fitsWire_of_length {cipher : SmCipher} {bitSize : Nat} (law : cipher.Lawful bitSize)
    {cmd : CommandApdu} (h : cmd.body.length + 48 ≤ 0xFFFF) :
    MrtdSM.FitsWire cipher bitSize cmd := by
  rintro ssc wire rfl hwire
  obtain ⟨dataDo, do97, header, n, cc, do8e, hdata, h97, -, hn, hcc, h8e, rfl⟩ :=
    protectBody_eq_ok.mp hwire
  obtain ⟨bytes, hbytes, hseals⟩ := generateDataDo_seals ⟨cipher, ssc⟩ law
    { cmd with cla := maskCla cmd.cla } (by simp only [CommandApdu.body] at h ⊢; omega)
  obtain rfl := Outcome.ok.inj (hdata.symm.trans hbytes)
  obtain ⟨cc', hcc', hcclen⟩ := mac_of_pad law hn
  obtain rfl := Outcome.ok.inj (hcc'.symm.trans hcc)
  have h1 := hseals.length_le law
  have h2 := Sm.length_do97_le h97
  have h3 := Sm.length_buildDo_le (by decide) h8e
  simp only [CommandApdu.body, Option.getD_some, List.length_append] at h h1 ⊢
  omega

/-- A read with no command data, and an update with data that the chip answers with data: both under
the cipher that hides nothing. -/
def plainExchanges : List Exchange :=
  [⟨⟨0x00, Ins.readBinary, 0x00, 0x00, none, 256⟩, false, StatusWord.success, [0x61, 0x02]⟩,
    ⟨⟨0x10, Ins.readBinaryExt, 0x00, 0x00, some [0x54, 0x02, 0x80, 0x00], 65536⟩, true,
      ⟨0x62, 0x82⟩, []⟩]

theorem lockStep_plain :
    Machine.trace Exchange.step
        (⟨SmCipher.plain, Ssc.zero64⟩, ⟨SmCipher.plain, Ssc.zero64⟩) plainExchanges =
      plainExchanges.map (fun e => (e, e.meant)) := by
  refine (lockStep (SmCipher.plain_lawful 64) plainExchanges ?_).1
  intro e he
  rcases List.mem_cons.mp he with rfl | he
  · exact ⟨by decide, MrtdSM.fitsWire_of_length (SmCipher.plain_lawful 64) (by decide), by decide⟩
  · obtain rfl := List.mem_singleton.mp he
    exact ⟨by decide, MrtdSM.fitsWire_of_length (SmCipher.plain_lawful 64) (by decide), by decide⟩

end Dmrtd
