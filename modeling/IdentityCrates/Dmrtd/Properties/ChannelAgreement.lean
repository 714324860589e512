import IdentityCrates.Dmrtd.Proto.Conversation
import IdentityCrates.Dmrtd.Properties.LockStep
import IdentityCrates.Dmrtd.Properties.ResponseAuthenticity

/-!
# What terminal and chip agree on over a channel that is not trusted

Whatever the channel does, as long as it does not forge a MAC: the commands that the chip accepts
are commands that the terminal sent, and the responses that the terminal hands to its caller are the
chip's answers to the very commands it hands them out for.  Both hold in order and with
multiplicity, so nothing is replayed, reflected or answered twice.

A MAC vouches for its input, and the input is read back in one way only: it starts with the counter,
which no two messages of a session share, and the byte after it tells a command from an answer.  A
command has a class byte with both secure messaging bits, and no data object tag of an answer has
both.
-/

namespace Dmrtd

open Rust Octets

/-! ## Reading a MAC input back -/

lemma Iso9797.pad_inj {blockSize : Nat} (hb : 0 < blockSize) {xs ys p : Bytes}
    (hx : Iso9797.pad xs blockSize = .ok p) (hy : Iso9797.pad ys blockSize = .ok p) : xs = ys :=
  Outcome.ok.inj ((Iso9797.unpad_pad hb hx).symm.trans (Iso9797.unpad_pad hb hy))

/-- A counter of known width is read back off the front of what follows it. -/
lemma Ssc.append_inj {s t : Ssc} (hb : s.bitSize = t.bitSize) {xs ys : Bytes}
    (h : s.toBytes ++ xs = t.toBytes ++ ys) : s = t ∧ xs = ys := by
  obtain ⟨hbytes, hrest⟩ := List.append_inj h (by rw [length_toBytes, length_toBytes, hb])
  exact ⟨toBytes_inj hb hbytes, hrest⟩

/-- The padded form of counter and message determines both. -/
lemma input_inj (cipher : SmCipher) {s t : Ssc} (hb : s.bitSize = t.bitSize) {xs ys n : Bytes}
    (hx : Iso9797.pad (s.toBytes ++ xs) cipher.cipherAlgorithm.blockSize = .ok n)
    (hy : Iso9797.pad (t.toBytes ++ ys) cipher.cipherAlgorithm.blockSize = .ok n) :
    s = t ∧ xs = ys :=
  Ssc.append_inj hb (Iso9797.pad_inj cipher.cipherAlgorithm.blockSize_pos hx hy)

/-- Counters of one session, short of a full turn, agree only at one count. -/
lemma Ssc.iterate_inj {ssc : Ssc} {m n : Nat} (hm : m < 2 ^ ssc.bitSize) (hn : n < 2 ^ ssc.bitSize)
    (h : Ssc.increment^[m] ssc = Ssc.increment^[n] ssc) : m = n := by
  by_contra hne
  rcases Nat.lt_or_gt_of_ne hne with hlt | hlt
  · exact Ssc.iterate_increment_ne ssc hlt (by omega) h
  · exact Ssc.iterate_increment_ne ssc hlt (by omega) h.symm

/-- A message whose first byte has both secure messaging bits, as a command has. -/
def IsCommandMessage (xs : Bytes) : Prop := xs.headD 0 &&& Cla.smHeaderAuthn = Cla.smHeaderAuthn

lemma IsCommandMessage.append {xs : Bytes} (h : IsCommandMessage xs) (ys : Bytes) :
    IsCommandMessage (xs ++ ys) := by
  rcases xs with _ | ⟨x, xs⟩
  · exact absurd h (by decide : ¬ (0 : UInt8) &&& Cla.smHeaderAuthn = Cla.smHeaderAuthn)
  · exact h

/-- Padding keeps the first byte. -/
lemma IsCommandMessage.pad {xs p : Bytes} {blockSize : Nat} (h : IsCommandMessage xs)
    (hp : Iso9797.pad xs blockSize = .ok p) : IsCommandMessage p := by
  obtain ⟨rest, rfl⟩ := Iso9797.pad_prefix hp
  exact h.append rest

/-- The objects of an answer start with the tag of one. -/
lemma not_isCommandMessage {dataDo do99 : Bytes} {dataTv : Option DecodedTv} {do99Tv : DecodedTv}
    (hdata : MrtdSM.IsDataDo dataDo dataTv) (h99 : MrtdSM.IsDo Sm.tagDo99 do99 do99Tv) :
    ¬ IsCommandMessage (dataDo ++ do99) := by
  cases hdata with
  | absent =>
    obtain ⟨tl, rfl⟩ := h99.eq_cons
    exact (by decide : ¬ (0x99 : UInt8) &&& Cla.smHeaderAuthn = Cla.smHeaderAuthn)
  | do85 hdo =>
    obtain ⟨tl, rfl⟩ := hdo.eq_cons
    exact (by decide : ¬ (0x85 : UInt8) &&& Cla.smHeaderAuthn = Cla.smHeaderAuthn)
  | do87 hdo =>
    obtain ⟨tl, rfl⟩ := hdo.eq_cons
    exact (by decide : ¬ (0x87 : UInt8) &&& Cla.smHeaderAuthn = Cla.smHeaderAuthn)

/-- The objects of an answer are told apart in one way only. -/
lemma MrtdSM.answer_unique {dataDo do99 dataDo' do99' : Bytes} {dataTv dataTv' : Option DecodedTv}
    {do99Tv do99Tv' : DecodedTv}
    (hdata : IsDataDo dataDo dataTv) (h99 : IsDo Sm.tagDo99 do99 do99Tv)
    (hdata' : IsDataDo dataDo' dataTv') (h99' : IsDo Sm.tagDo99 do99' do99Tv')
    (h : dataDo ++ do99 = dataDo' ++ do99') : dataTv = dataTv' ∧ do99Tv = do99Tv' := by
  have htake : ∀ {bytes tv}, IsDo Sm.tagDo99 bytes tv → ∀ b ∈ bytes.head?, b ∉ [0x85, 0x87] := by
    intro bytes tv hdo b hb
    rw [hdo.head] at hb
    obtain rfl := Option.some.inj hb
    decide
  have hfirst := Chip.takeDo_of_isDataDo hdata (htake h99)
  rw [h, Chip.takeDo_of_isDataDo hdata' (htake h99')] at hfirst
  obtain ⟨rfl, rfl⟩ := Prod.mk.inj (Option.some.inj hfirst)
  exact ⟨rfl, Outcome.ok.inj (h99.decoded.symm.trans h99'.decoded)⟩

/-- A sealed data object is one of an answer. -/
lemma Seals.isDataDo {cipher : SmCipher} {ssc : Ssc} {data bytes : Bytes}
    (h : Seals cipher ssc data bytes) : ∃ dataTv, MrtdSM.IsDataDo bytes dataTv := by
  cases h with
  | absent => exact ⟨none, .absent⟩
  | do85 _ _ _ hdo => exact ⟨_, .do85 (MrtdSM.IsDo.of_encode (by decide) hdo)⟩
  | do87 _ _ _ hdo => exact ⟨_, .do87 (MrtdSM.IsDo.of_encode (by decide) hdo)⟩

/-! ## What the two sides authenticate -/

namespace MrtdSM

lemma commandInput_eq_some {sm : MrtdSM} {cmd : CommandApdu} {n : Bytes} :
    (sm.commandInput cmd).toOption = some n ↔
      ∃ dataDo do97 header,
        sm.generateDataDo { cmd with cla := maskCla cmd.cla } = .ok dataDo ∧
        Sm.do97 cmd.ne = .ok do97 ∧
        Iso9797.pad [maskCla cmd.cla, cmd.ins, cmd.p1, cmd.p2]
          sm.cipher.cipherAlgorithm.blockSize = .ok header ∧
        Iso9797.pad (sm.ssc.toBytes ++ (header ++ dataDo ++ do97))
          sm.cipher.cipherAlgorithm.blockSize = .ok n := by
  simp only [commandInput, generateM, CommandApdu.rawHeader, blockLen_eq, Outcome.toOption_eq_some,
    Outcome.bind_eq_ok, generateN_eq_ok, Outcome.mapErr_eq_ok, Outcome.pure_eq, Outcome.ok.injEq]
  constructor
  · rintro ⟨dataDo, hd, do97, h97, _, ⟨_, rfl, header, hh, rfl⟩, hn⟩
    exact ⟨dataDo, do97, header, hd, h97, hh, hn⟩
  · rintro ⟨dataDo, do97, header, hd, h97, hh, hn⟩
    exact ⟨dataDo, hd, do97, h97, _, ⟨_, rfl, header, hh, rfl⟩, hn⟩

/-- What an accepted response vouches for, and how it splits. -/
lemma vouchedInput_of_unprotectBody {sm : MrtdSM} {bytes : Bytes} {outer : StatusWord}
    {body : Bytes} {r : ResponseApdu}
    (hbytes : ResponseApdu.fromBytes bytes = .ok ⟨outer, some body⟩)
    (h : sm.unprotectBody ⟨outer, some body⟩ = .ok r) :
    ∃ dataDo do99 do8e rest dataTv do99Tv k, body = dataDo ++ do99 ++ do8e ++ rest ∧
      IsDataDo dataDo dataTv ∧ IsDo Sm.tagDo99 do99 do99Tv ∧
      Decrypts sm.cipher sm.ssc dataTv r.data ∧ StatusWord.fromBytes do99Tv.value 0 = .ok r.status ∧
      Iso9797.pad (sm.ssc.toBytes ++ (dataDo ++ do99)) sm.cipher.cipherAlgorithm.blockSize = .ok k ∧
      sm.vouchedInput bytes = some k := by
  obtain ⟨dataTv, do99Tv, do8eTv, hparses, ⟨k, hk, hmac⟩, hdata, hstatus⟩ :=
    unprotectBody_eq_ok.mp h
  obtain ⟨dataDo, do99, do8e, rest, hsplit, hdo, h99, -⟩ := parses_iff.mp hparses
  have hcovered : body.take (encodedLen dataTv + do99Tv.encodedLen) = dataDo ++ do99 := by
    rw [hsplit, hdo.encodedLen_eq, h99.whole, List.append_assoc _ do8e]
    exact List.take_left' (by rw [List.length_append])
  refine ⟨dataDo, do99, do8e, rest, dataTv, do99Tv, k, hsplit, hdo, h99, hdata, hstatus, ?_, ?_⟩
  · rw [← hcovered]
    exact hk
  · simp only [vouchedInput, hbytes, hparses.parse_dataDo, hparses.parse_do99, hparses.parse_do8e,
      generateK_eq_ok.mpr hk, hmac, guard, if_true, Outcome.toOption_ok, Option.bind_eq_bind,
      Option.bind_some, Option.pure_def]

end MrtdSM

namespace Chip

lemma answerInput_eq_some {chip : Chip} {answer : Answer} {k : Bytes} :
    chip.answerInput answer = some k ↔
      ∃ dataDo do99, chip.sealData answer.useDo85 answer.data = some dataDo ∧
        encodeDo 0x99 answer.sw.toBytes = some do99 ∧
        Iso9797.pad (chip.ssc.toBytes ++ (dataDo ++ do99)) chip.blockSize = .ok k := by
  simp only [answerInput, Option.bind_eq_bind, Option.bind_eq_some_iff, Outcome.toOption_eq_some]
  constructor
  · rintro ⟨dataDo, hdata, do99, h99, hk⟩
    exact ⟨dataDo, do99, hdata, h99, hk⟩
  · rintro ⟨dataDo, do99, hdata, h99, hk⟩
    exact ⟨dataDo, hdata, do99, h99, hk⟩

/-- What is in front of a data object that was taken. -/
lemma takeDo_eq_some {tags : List UInt8} {xs rest : Bytes} {tv : Option DecodedTv}
    (h : takeDo tags xs = some (tv, rest)) : ∃ bytes, xs = bytes ++ rest := by
  rcases xs with _ | ⟨b, tl⟩
  · obtain ⟨-, rfl⟩ := Prod.mk.inj (Option.some.inj h)
    exact ⟨[], rfl⟩
  · rw [takeDo] at h
    split at h
    · obtain ⟨tv', -, htv⟩ := Option.map_eq_some_iff.mp h
      obtain ⟨-, rfl⟩ := Prod.mk.inj htv
      exact ⟨_, (List.take_append_drop tv'.encodedLen _).symm⟩
    · obtain ⟨-, rfl⟩ := Prod.mk.inj (Option.some.inj h)
      exact ⟨[], rfl⟩

lemma takeDo_head {tag : UInt8} {xs rest : Bytes} {tv : DecodedTv}
    (h : takeDo [tag] xs = some (some tv, rest)) : xs.head? = some tag := by
  rcases xs with _ | ⟨b, tl⟩
  · simp [takeDo] at h
  · rw [takeDo] at h
    split at h
    · rename_i hb
      rw [List.mem_singleton.mp hb]
      rfl
    · simp at h

/-- `unwrap` taken apart: the objects before the `DO'8E'` are covered by a MAC that verifies, and
what was recovered is read off them. -/
lemma unwrap_inv {chip : Chip} {bytes : Bytes} {apdu wire : CommandApdu.Wire}
    (hparse : CommandApdu.parse bytes = some apdu) (h : chip.unwrap apdu = some wire) :
    ∃ covered rest header n dataTv neTv rest₁ data,
      apdu.header.headD 0 &&& Cla.smHeaderAuthn = Cla.smHeaderAuthn ∧
      apdu.body = covered ++ rest ∧ rest.head? = some 0x8E ∧
      takeDo [0x85, 0x87] apdu.body = some (dataTv, rest₁) ∧
      takeDo [0x97] rest₁ = some (neTv, rest) ∧
      Iso9797.pad apdu.header chip.blockSize = .ok header ∧
      Iso9797.pad (chip.ssc.toBytes ++ (header ++ covered)) chip.blockSize = .ok n ∧
      chip.openData dataTv = some data ∧ wire = ⟨plainHeader apdu.header, data, readNe neTv⟩ ∧
      chip.vouchedInput bytes = some n := by
  simp only [unwrap, Option.bind_eq_bind, Option.bind_eq_some_iff, Outcome.toOption_eq_some,
    Option.pure_def, Option.some.injEq, Prod.exists] at h
  obtain ⟨_, hsm, dataTv, rest₁, htake₁, neTv, rest, htake₂, _, rest₃, htake₃, macTv, rfl, _, -,
    header, hheader, n, hn, cc, hcc, _, hmac, data, hdata, rfl⟩ := h
  obtain ⟨dataBytes, hbody⟩ := takeDo_eq_some htake₁
  obtain ⟨neBytes, rfl⟩ := takeDo_eq_some htake₂
  have hsplit : apdu.body = apdu.body.take (apdu.body.length - rest.length) ++ rest := by
    have hlen : apdu.body.length - rest.length = (dataBytes ++ neBytes).length := by
      rw [hbody]
      simp only [List.length_append]
      omega
    rw [hlen, hbody, ← List.append_assoc, List.take_left' rfl]
  have hsm := (Option.guard_eq_some' _).mp hsm
  have hmac := (Option.guard_eq_some' _).mp hmac
  refine ⟨_, rest, header, n, dataTv, neTv, _, data, hsm, hsplit, takeDo_head htake₃, htake₁,
    htake₂, hheader, hn, hdata, rfl, ?_⟩
  simp only [vouchedInput, hparse, htake₁, htake₂, htake₃, hheader, hn, hcc, hmac, guard, if_true,
    Outcome.toOption_ok, Option.bind_eq_bind, Option.bind_some, Option.pure_def]

/-- What the chip wraps is sealed. -/
lemma seals_of_sealData {chip : Chip} {useDo85 : Bool} {data bytes : Bytes}
    (h : chip.sealData useDo85 data = some bytes) : Seals chip.cipher chip.ssc data bytes := by
  by_cases hdata : data = []
  · rw [sealData, if_pos hdata] at h
    obtain rfl := Option.some.inj h
    rw [hdata]
    exact .absent
  · simp only [sealData, if_neg hdata, Option.bind_eq_bind, Option.bind_eq_some_iff,
      Outcome.toOption_eq_some] at h
    obtain ⟨padded, hpad, edata, henc, hdo⟩ := h
    cases useDo85 with
    | true => exact .do85 hdata hpad henc (Outcome.toOption_eq_some.mp hdo)
    | false => exact .do87 hdata hpad henc (Outcome.toOption_eq_some.mp hdo)

end Chip

/-- A card reads a header of four bytes. -/
lemma CommandApdu.length_header {bytes : Bytes} {apdu : CommandApdu.Wire}
    (h : CommandApdu.parse bytes = some apdu) : apdu.header.length = 4 := by
  have hextended : ∀ header rest, CommandApdu.parseExtended header rest = some apdu →
      apdu.header = header := by
    intro header rest h
    unfold CommandApdu.parseExtended at h
    split at h
    · simp only at h
      split_ifs at h <;> exact (Option.some.inj h) ▸ rfl
    · simp at h
  unfold CommandApdu.parse at h
  split at h
  · simp only at h
    split at h
    · exact (Option.some.inj h) ▸ rfl
    · exact (Option.some.inj h) ▸ rfl
    · split_ifs at h
      · rw [hextended _ _ h]
        rfl
      · exact (Option.some.inj h) ▸ rfl
      · exact (Option.some.inj h) ▸ rfl
  · simp at h

/-! ## What is vouched for -/

section Vouched

variable {cipher : SmCipher} {s t : Ssc} (hb : s.bitSize = t.bitSize)

include hb

/-- A chip that finds the MAC of a sent command correct recovers that command. -/
lemma Chip.eq_meant_of_unwrap (law : cipher.Lawful s.bitSize) {bytes n : Bytes}
    {apdu wire : CommandApdu.Wire} {cmd : CommandApdu} (hlim : cmd.InLimits)
    (hparse : CommandApdu.parse bytes = some apdu) (h : (Chip.mk cipher s).unwrap apdu = some wire)
    (hvouched : (Chip.mk cipher s).vouchedInput bytes = some n)
    (hn : ((MrtdSM.mk cipher t).commandInput cmd).toOption = some n) :
    s = t ∧ wire = cmd.meant := by
  obtain ⟨covered, rest, header, n', dataTv, neTv, rest₁, data, -, hbody, hrest, htake₁, htake₂,
    hheader, hn', hdata, rfl, hv⟩ := unwrap_inv hparse h
  obtain rfl := Option.some.inj (hvouched.symm.trans hv)
  obtain ⟨dataDo, do97, header', hdataDo, h97, hheader', hpad⟩ := MrtdSM.commandInput_eq_some.mp hn
  obtain ⟨rfl, hcovered⟩ := input_inj cipher hb hn' hpad
  have hpos := cipher.cipherAlgorithm.blockSize_pos
  have hlen : header.length = header'.length := by
    rw [Iso9797.length_pad_eq hpos hheader, Iso9797.length_pad_eq hpos hheader',
      CommandApdu.length_header hparse]
    rfl
  rw [List.append_assoc header'] at hcovered
  obtain ⟨rfl, rfl⟩ := List.append_inj hcovered hlen
  have hraw := Iso9797.pad_inj hpos hheader hheader'
  -- the objects are the ones that the terminal built
  obtain ⟨dataBytes, hbytes, hseals⟩ := MrtdSM.generateDataDo_seals ⟨cipher, s⟩ law
    { cmd with cla := MrtdSM.maskCla cmd.cla } hlim.1
  obtain rfl := Outcome.ok.inj (hdataDo.symm.trans hbytes)
  obtain ⟨dataTv', hdataTv', -, hopen⟩ := Seals.opens law hseals
  obtain ⟨neBytes, neTv', hneBytes, hneDo⟩ := Sm.do97_isNeDo hlim.2
  obtain rfl := Outcome.ok.inj (h97.symm.trans hneBytes)
  rw [hbody, List.append_assoc, takeDo_of_isDataDo hdataTv' (hneDo.head hrest)] at htake₁
  obtain ⟨rfl, rfl⟩ := Prod.mk.inj (Option.some.inj htake₁)
  rw [takeDo_of_isNeDo hneDo hrest] at htake₂
  obtain ⟨rfl, -⟩ := Prod.mk.inj (Option.some.inj htake₂)
  obtain rfl := Option.some.inj (hdata.symm.trans hopen)
  refine ⟨rfl, ?_⟩
  rw [hraw, hneDo.readNe_eq, CommandApdu.meant, CommandApdu.rawHeader, plainHeader, plainHeader,
    MrtdSM.maskCla_and_plain]
  rfl

/-- No chip takes an answer for a command. -/
lemma Chip.unwrap_not_reflected {bytes n : Bytes} {apdu wire : CommandApdu.Wire} {answer : Answer}
    (hparse : CommandApdu.parse bytes = some apdu) (h : (Chip.mk cipher s).unwrap apdu = some wire)
    (hvouched : (Chip.mk cipher s).vouchedInput bytes = some n)
    (hn : (Chip.mk cipher t).answerInput answer = some n) : False := by
  obtain ⟨covered, rest, header, n', dataTv, neTv, rest₁, data, hsm, -, -, -, -, hheader, hn', -, -,
    hv⟩ := unwrap_inv hparse h
  obtain rfl := Option.some.inj (hvouched.symm.trans hv)
  obtain ⟨dataDo, do99, hdataDo, h99, hpad⟩ := answerInput_eq_some.mp hn
  obtain ⟨rfl, hmessage⟩ := input_inj cipher hb hn' hpad
  have hcommand : IsCommandMessage (header ++ covered) :=
    (IsCommandMessage.pad hsm hheader).append covered
  rw [hmessage] at hcommand
  obtain ⟨dataTv', hdataTv'⟩ := (seals_of_sealData hdataDo).isDataDo
  exact not_isCommandMessage hdataTv' (MrtdSM.IsDo.of_encode (by decide)
    (Outcome.toOption_eq_some.mp h99)) hcommand

/-- A terminal that finds the MAC of an answer correct reads that answer. -/
lemma MrtdSM.eq_response_of_unprotectBody (law : cipher.Lawful s.bitSize) {bytes body k : Bytes}
    {outer : StatusWord} {r : ResponseApdu} {answer : Answer}
    (hbytes : ResponseApdu.fromBytes bytes = .ok ⟨outer, some body⟩)
    (h : (MrtdSM.mk cipher s).unprotectBody ⟨outer, some body⟩ = .ok r)
    (hvouched : (MrtdSM.mk cipher s).vouchedInput bytes = some k)
    (hk : (Chip.mk cipher t).answerInput answer = some k) : s = t ∧ r = answer.response := by
  obtain ⟨dataDo, do99, do8e, rest, dataTv, do99Tv, k', -, hdo, h99, hdata, hstatus, hk', hv⟩ :=
    vouchedInput_of_unprotectBody hbytes h
  obtain rfl := Option.some.inj (hvouched.symm.trans hv)
  obtain ⟨dataDo', do99', hdataDo', h99', hpad⟩ := Chip.answerInput_eq_some.mp hk
  obtain ⟨rfl, hmessage⟩ := input_inj cipher hb hk' hpad
  obtain ⟨dataTv', hdo', hdata', -⟩ := Seals.opens law (Chip.seals_of_sealData hdataDo')
  have h99Do := IsDo.of_encode (by decide) (Outcome.toOption_eq_some.mp h99')
  obtain ⟨rfl, rfl⟩ := answer_unique hdo h99 hdo' h99Do hmessage
  refine ⟨rfl, ?_⟩
  have hread : (MrtdSM.mk cipher s).decryptDataDo dataTv = .ok r.data :=
    (decryptDataDo_eq_ok hdo).mpr hdata
  have hread' : (MrtdSM.mk cipher s).decryptDataDo dataTv =
      .ok (if answer.data = [] then none else some answer.data) :=
    (decryptDataDo_eq_ok hdo').mpr hdata'
  have hsw := StatusWord.fromBytes_zero answer.sw.sw1 answer.sw.sw2 []
  obtain ⟨status, rdata⟩ := r
  obtain rfl := Outcome.ok.inj (hread.symm.trans hread')
  obtain rfl := Outcome.ok.inj (hstatus.symm.trans hsw)
  rfl

/-- No terminal takes a command for an answer. -/
lemma MrtdSM.unprotectBody_not_reflected {bytes body k : Bytes} {outer : StatusWord}
    {r : ResponseApdu} {cmd : CommandApdu}
    (hbytes : ResponseApdu.fromBytes bytes = .ok ⟨outer, some body⟩)
    (h : (MrtdSM.mk cipher s).unprotectBody ⟨outer, some body⟩ = .ok r)
    (hvouched : (MrtdSM.mk cipher s).vouchedInput bytes = some k)
    (hk : ((MrtdSM.mk cipher t).commandInput cmd).toOption = some k) : False := by
  obtain ⟨dataDo, do99, do8e, rest, dataTv, do99Tv, k', -, hdo, h99, -, -, hk', hv⟩ :=
    vouchedInput_of_unprotectBody hbytes h
  obtain rfl := Option.some.inj (hvouched.symm.trans hv)
  obtain ⟨dataDo', do97, header, -, -, hheader, hpad⟩ := commandInput_eq_some.mp hk
  obtain ⟨rfl, hmessage⟩ := input_inj cipher hb hk' hpad
  have hfirst : IsCommandMessage [maskCla cmd.cla, cmd.ins, cmd.p1, cmd.p2] :=
    maskCla_and_sm cmd.cla
  have hcommand : IsCommandMessage (header ++ dataDo' ++ do97) :=
    ((hfirst.pad hheader).append _).append _
  rw [← hmessage] at hcommand
  exact not_isCommandMessage hdo h99 hcommand

end Vouched

/-! ## What an event does -/

namespace Conversation

variable {c : Conversation}

/-- The terminal sends: a command goes out and is waited for, or it cannot be protected. -/
lemma send_cases (cmd : CommandApdu) (c : Conversation) :
    (c.send cmd).2 = { c with
        terminal := c.terminal.advance, awaiting := some cmd, said := c.said.record (.sent cmd) } ∨
      (c.send cmd).2 = { c with
        terminal := c.terminal.advance, awaiting := none, said := c.said.tick } := by
  have hprotect : MrtdSM.protect cmd c.terminal =
      (c.terminal.advance.protectBody cmd, c.terminal.advance) := rfl
  rw [send, hprotect]
  rcases c.terminal.advance.protectBody cmd with wire | e | _
  · exact .inl rfl
  · exact .inr rfl
  · exact .inr rfl

/-- The chip receives: it accepts and answers, accepts and has an answer that it cannot wrap, or
refuses. -/
lemma serve_cases (bytes : Bytes) (answer : Answer) (c : Conversation) :
    (∃ apdu wire, CommandApdu.parse bytes = some apdu ∧ c.chip.advance.unwrap apdu = some wire ∧
      ((c.serve bytes answer).2 = { c with
          chip := c.chip.advance.advance
          heard := (c.heard.record (.accepted wire)).record (.answered wire answer) } ∨
        (c.serve bytes answer).2 = { c with
          chip := c.chip.advance.advance, heard := (c.heard.record (.accepted wire)).tick })) ∨
      (c.serve bytes answer).2 = { c with
        chip := c.chip.advance, heard := c.heard.tick } := by
  rw [serve, Chip.receive]
  rcases hparse : CommandApdu.parse bytes with _ | apdu
  · exact .inr rfl
  · rw [Option.bind_some]
    rcases hunwrap : c.chip.advance.unwrap apdu with _ | wire
    · exact .inr rfl
    · refine .inl ⟨apdu, wire, rfl, hunwrap, ?_⟩
      simp only [Chip.respond]
      rcases c.chip.advance.advance.wrap answer.useDo85 answer.sw answer.data with _ | back
      · exact .inr rfl
      · exact .inl rfl

/-- The terminal receives: a success that a body vouches for, a body that is refused or no success,
or no body at all. -/
lemma finish_cases (cmd : CommandApdu) (bytes : Bytes) (c : Conversation) :
    (∃ outer body r, ResponseApdu.fromBytes bytes = .ok ⟨outer, some body⟩ ∧
      c.terminal.advance.unprotectBody ⟨outer, some body⟩ = .ok r ∧
      c.finish cmd bytes = { c with
        terminal := c.terminal.advance
        awaiting := none
        said := c.said.record (.received cmd r) }) ∨
      c.finish cmd bytes = { c with
        terminal := c.terminal.advance, awaiting := none, said := c.said.tick } ∨
      c.finish cmd bytes = { c with awaiting := none } := by
  rcases hbytes : ResponseApdu.fromBytes bytes with rapdu | e | _
  · by_cases hbody : MrtdSM.hasBody rapdu
    · obtain ⟨body, hdata, -⟩ := MrtdSM.hasBody_iff.mp hbody
      obtain ⟨outer, data⟩ := rapdu
      subst hdata
      simp only [finish, hbytes, hbody, if_true, MrtdSM.unprotect_apply_body hbody]
      rcases hr : c.terminal.advance.unprotectBody ⟨outer, some body⟩ with r | e | _
      · by_cases hsuccess : r.status = StatusWord.success
        · simp only [if_pos hsuccess]
          exact .inl ⟨outer, body, r, rfl, hr, rfl⟩
        · simp only [if_neg hsuccess]
          exact .inr (.inl trivial)
      · exact .inr (.inl rfl)
      · exact .inr (.inl rfl)
    · -- a bare status word is handed up only when it is no success
      refine .inr (.inr ?_)
      rw [Bool.not_eq_true] at hbody
      simp only [finish, hbytes, hbody, MrtdSM.unprotect_apply_bare hbody, Bool.false_eq_true,
        if_false]
      by_cases hsuccess : rapdu.status = StatusWord.success
      · rw [if_pos hsuccess]
      · rw [if_neg hsuccess]
        simp only [if_neg hsuccess]
  · simp only [finish, hbytes, or_true]
  · simp only [finish, hbytes, or_true]

end Conversation

/-- Whatever `transceive_cmd` returns is received in this sense: the command goes out, the transport
comes back with some bytes, whatever the chip has been made to do in the meantime, and the response
is recorded. -/
lemma MrtdApi.transceiveCmd_received {τ : Type} [Transceiver τ] {cmd : CommandApdu} {t : τ}
    {c : Conversation} {r : ResponseApdu} {api : MrtdApi τ}
    (h : transceiveCmd cmd ⟨t, some c.terminal⟩ = (.ok r, api)) :
    ∃ wire bytes t', (c.send cmd).1 = some wire ∧ Transceiver.transceive wire t = (.ok bytes, t') ∧
      ∀ c' : Conversation, c'.terminal = (c.send cmd).2.terminal →
        (c'.finish cmd bytes).said = c'.said.record (.received cmd r) ∧
        api = ⟨t', some (c'.finish cmd bytes).terminal⟩ := by
  obtain ⟨wire, bytes, t', rapdu, sm', hwire, hbytes, hrapdu, hun, hsuccess, rfl⟩ :=
    transceiveCmd_eq_ok.mp h
  have hprotect : MrtdSM.protect cmd c.terminal = (.ok wire, c.terminal.advance) :=
    Prod.ext hwire rfl
  have hsend : (c.send cmd).1 = some wire.toBytes ∧
      (c.send cmd).2.terminal = c.terminal.advance := by
    rw [Conversation.send, hprotect]
    exact ⟨rfl, rfl⟩
  refine ⟨_, bytes, t', hsend.1, hbytes, fun c' hterminal => ?_⟩
  rw [hsend.2] at hterminal
  simp only [Conversation.finish, hrapdu, hterminal, hun, if_pos hsuccess]
  exact ⟨trivial, trivial⟩

/-! ## What the journals owe each other -/

/-- Every accepted command was sent at the same count, every answer was given to the command
accepted just before it, and every received response is the chip's answer at that count. -/
structure Justified (said : Journal TerminalEntry) (heard : Journal ChipEntry) : Prop where
  inLimits : ∀ n cmd, (n, .sent cmd) ∈ said.entries → cmd.InLimits
  accepted : ∀ n wire, (n, .accepted wire) ∈ heard.entries →
    ∃ cmd, (n, .sent cmd) ∈ said.entries ∧ wire = cmd.meant
  answered : ∀ n wire answer, (n, .answered wire answer) ∈ heard.entries →
    ∃ m, n = m + 1 ∧ (m, .accepted wire) ∈ heard.entries
  received : ∀ n cmd r, (n, .received cmd r) ∈ said.entries →
    ∃ answer, (n, .answered cmd.meant answer) ∈ heard.entries ∧ r = answer.response

namespace Justified

open Journal

variable {said : Journal TerminalEntry} {heard : Journal ChipEntry} (h : Justified said heard)

include h

lemma tick_said : Justified said.tick heard := ⟨h.inLimits, h.accepted, h.answered, h.received⟩

lemma tick_heard : Justified said heard.tick := ⟨h.inLimits, h.accepted, h.answered, h.received⟩

lemma record_sent {cmd : CommandApdu} (hlim : cmd.InLimits) :
    Justified (said.record (.sent cmd)) heard where
  inLimits n cmd' hmem := by
    rcases mem_record.mp hmem with hmem | heq
    · exact h.inLimits n cmd' hmem
    · obtain ⟨-, hcmd⟩ := Prod.mk.inj heq
      obtain rfl := TerminalEntry.sent.inj hcmd
      exact hlim
  accepted n wire hmem := by
    obtain ⟨cmd', hsent, rfl⟩ := h.accepted n wire hmem
    exact ⟨cmd', mem_record_of_mem hsent, rfl⟩
  answered := h.answered
  received n cmd' r hmem := by
    rcases mem_record.mp hmem with hmem | heq
    · exact h.received n cmd' r hmem
    · exact TerminalEntry.noConfusion (Prod.mk.inj heq).2

lemma record_received {cmd : CommandApdu} {r : ResponseApdu}
    (hanswer : ∃ answer, (said.count + 1, .answered cmd.meant answer) ∈ heard.entries ∧
      r = answer.response) : Justified (said.record (.received cmd r)) heard where
  inLimits n cmd' hmem := by
    rcases mem_record.mp hmem with hmem | heq
    · exact h.inLimits n cmd' hmem
    · exact TerminalEntry.noConfusion (Prod.mk.inj heq).2
  accepted n wire hmem := by
    obtain ⟨cmd', hsent, rfl⟩ := h.accepted n wire hmem
    exact ⟨cmd', mem_record_of_mem hsent, rfl⟩
  answered := h.answered
  received n cmd' r' hmem := by
    rcases mem_record.mp hmem with hmem | heq
    · exact h.received n cmd' r' hmem
    · obtain ⟨rfl, hentry⟩ := Prod.mk.inj heq
      obtain ⟨rfl, rfl⟩ := TerminalEntry.received.inj hentry
      exact hanswer

lemma record_accepted {cmd : CommandApdu} (hsent : (heard.count + 1, .sent cmd) ∈ said.entries) :
    Justified said (heard.record (.accepted cmd.meant)) where
  inLimits := h.inLimits
  accepted n wire hmem := by
    rcases mem_record.mp hmem with hmem | heq
    · exact h.accepted n wire hmem
    · obtain ⟨rfl, hentry⟩ := Prod.mk.inj heq
      exact ⟨cmd, hsent, ChipEntry.accepted.inj hentry⟩
  answered n wire answer hmem := by
    rcases mem_record.mp hmem with hmem | heq
    · obtain ⟨m, hm, hbefore⟩ := h.answered n wire answer hmem
      exact ⟨m, hm, mem_record_of_mem hbefore⟩
    · exact ChipEntry.noConfusion (Prod.mk.inj heq).2
  received n cmd' r hmem := by
    obtain ⟨answer, hanswer, hr⟩ := h.received n cmd' r hmem
    exact ⟨answer, mem_record_of_mem hanswer, hr⟩

lemma record_answered {wire : CommandApdu.Wire} {answer : Answer}
    (hbefore : (heard.count, .accepted wire) ∈ heard.entries) :
    Justified said (heard.record (.answered wire answer)) where
  inLimits := h.inLimits
  accepted n wire' hmem := by
    rcases mem_record.mp hmem with hmem | heq
    · exact h.accepted n wire' hmem
    · exact ChipEntry.noConfusion (Prod.mk.inj heq).2
  answered n wire' answer' hmem := by
    rcases mem_record.mp hmem with hmem | heq
    · obtain ⟨m, hm, hbefore'⟩ := h.answered n wire' answer' hmem
      exact ⟨m, hm, mem_record_of_mem hbefore'⟩
    · obtain ⟨rfl, hentry⟩ := Prod.mk.inj heq
      obtain ⟨rfl, rfl⟩ := ChipEntry.answered.inj hentry
      exact ⟨heard.count, rfl, mem_record_of_mem hbefore⟩
  received n cmd r hmem := by
    obtain ⟨answer', hanswer, hr⟩ := h.received n cmd r hmem
    exact ⟨answer', mem_record_of_mem hanswer, hr⟩

/-- The chip's commands are the terminal's, in order. -/
lemma accepted_sublist :
    (heard.select ChipEntry.accepted?).Sublist (said.select TerminalEntry.sent?) := by
  refine select_sublist ?_
  rintro n (wire | ⟨wire, answer⟩) c hmem hc
  · obtain ⟨cmd, hsent, rfl⟩ := h.accepted n wire hmem
    exact ⟨.sent cmd, hsent, hc⟩
  · cases hc

/-- The terminal's responses are the chip's answers, in order. -/
lemma received_sublist :
    (said.select TerminalEntry.received?).Sublist (heard.select ChipEntry.answered?) := by
  refine select_sublist ?_
  rintro n (cmd | ⟨cmd, r⟩) c hmem hc
  · cases hc
  · obtain ⟨answer, hanswer, rfl⟩ := h.received n cmd r hmem
    exact ⟨.answered cmd.meant answer, hanswer, hc⟩

end Justified

namespace Conversation

variable {cipher : SmCipher} {ssc : Ssc} {c : Conversation}

/-- Both sides have counted as far as their journals say, the journals are justified, and the
command waited for was the last thing sent. -/
structure Agreement (cipher : SmCipher) (ssc : Ssc) (c : Conversation) : Prop where
  terminal : c.terminal = ⟨cipher, Ssc.increment^[c.said.count] ssc⟩
  chip : c.chip = ⟨cipher, Ssc.increment^[c.heard.count] ssc⟩
  justified : Justified c.said c.heard
  awaited : ∀ cmd, c.awaiting = some cmd → (c.said.count, .sent cmd) ∈ c.said.entries

lemma agreement_start : Agreement cipher ssc (start cipher ssc) where
  terminal := rfl
  chip := rfl
  justified := ⟨by simp [start], by simp [start], by simp [start], by simp [start]⟩
  awaited cmd h := by simp [start] at h

lemma Agreement.terminal_advance (h : Agreement cipher ssc c) :
    c.terminal.advance = ⟨cipher, Ssc.increment^[c.said.count + 1] ssc⟩ := by
  rw [h.terminal, MrtdSM.advance, Function.iterate_succ_apply']

lemma Agreement.chip_advance (h : Agreement cipher ssc c) :
    c.chip.advance = ⟨cipher, Ssc.increment^[c.heard.count + 1] ssc⟩ := by
  rw [h.chip, Chip.advance, Function.iterate_succ_apply']

lemma mem_issued {n : Bytes} : n ∈ c.issued cipher ssc ↔
    (∃ m cmd, (m, .sent cmd) ∈ c.said.entries ∧
      ((MrtdSM.mk cipher (Ssc.increment^[m] ssc)).commandInput cmd).toOption = some n) ∨
    ∃ m wire answer, (m, .answered wire answer) ∈ c.heard.entries ∧
      (Chip.mk cipher (Ssc.increment^[m] ssc)).answerInput answer = some n := by
  simp only [issued, List.mem_append, List.mem_filterMap, Prod.exists]
  refine or_congr ⟨?_, ?_⟩ ⟨?_, ?_⟩
  · rintro ⟨m, cmd | ⟨cmd, r⟩, hmem, hn⟩
    · exact ⟨m, cmd, hmem, hn⟩
    · cases hn
  · rintro ⟨m, cmd, hmem, hn⟩
    exact ⟨m, .sent cmd, hmem, hn⟩
  · rintro ⟨m, wire | ⟨wire, answer⟩, hmem, hn⟩
    · cases hn
    · exact ⟨m, wire, answer, hmem, hn⟩
  · rintro ⟨m, wire, answer, hmem, hn⟩
    exact ⟨m, .answered wire answer, hmem, hn⟩

section Step

variable (law : cipher.Lawful ssc.bitSize) (h : Agreement cipher ssc c)
  (hsaid : c.said.count + 1 < 2 ^ ssc.bitSize) (hheard : c.heard.count + 1 < 2 ^ ssc.bitSize)

include law h hsaid hheard

/-- A command that the chip accepts was sent at the chip's count. -/
lemma Agreement.sent_of_unwrap {bytes : Bytes} {answer : Answer} {apdu wire : CommandApdu.Wire}
    (hunforged : c.Unforged cipher ssc (.toChip bytes answer))
    (hparse : CommandApdu.parse bytes = some apdu)
    (hunwrap : c.chip.advance.unwrap apdu = some wire) :
    ∃ cmd, (c.heard.count + 1, .sent cmd) ∈ c.said.entries ∧ wire = cmd.meant := by
  have hchip := h.chip_advance
  have hwidth : ∀ m n, (Ssc.increment^[m] ssc).bitSize = (Ssc.increment^[n] ssc).bitSize := by
    intro m n
    rw [Ssc.iterate_increment_bitSize, Ssc.iterate_increment_bitSize]
  obtain ⟨_, _, _, n, _, _, _, _, _, _, _, _, _, _, _, _, _, hvouched⟩ :=
    Chip.unwrap_inv hparse hunwrap
  have hissued := hunforged n hvouched
  rw [hchip] at hunwrap hvouched
  rcases mem_issued.mp hissued with ⟨m, cmd, hmem, hn⟩ | ⟨m, wire', answer', hmem, hn⟩
  · obtain ⟨hssc, hwire⟩ := Chip.eq_meant_of_unwrap (hwidth _ m)
      (by rwa [Ssc.iterate_increment_bitSize]) (h.justified.inLimits m cmd hmem) hparse hunwrap
      hvouched hn
    have hm : m ≤ c.said.count := c.said.reached _ hmem
    obtain rfl := Ssc.iterate_inj hheard (by omega) hssc
    exact ⟨cmd, hmem, hwire⟩
  · exact (Chip.unwrap_not_reflected (hwidth _ m) hparse hunwrap hvouched hn).elim

/-- A response that the terminal accepts is the chip's answer to the command waited for. -/
lemma Agreement.answered_of_unprotectBody {cmd : CommandApdu} {bytes body : Bytes}
    {outer : StatusWord} {r : ResponseApdu} (hcmd : c.awaiting = some cmd)
    (hunforged : c.Unforged cipher ssc (.toTerminal bytes))
    (hbytes : ResponseApdu.fromBytes bytes = .ok ⟨outer, some body⟩)
    (hunprotect : c.terminal.advance.unprotectBody ⟨outer, some body⟩ = .ok r) :
    ∃ answer, (c.said.count + 1, .answered cmd.meant answer) ∈ c.heard.entries ∧
      r = answer.response := by
  have hterminal := h.terminal_advance
  have hwidth : ∀ m n, (Ssc.increment^[m] ssc).bitSize = (Ssc.increment^[n] ssc).bitSize := by
    intro m n
    rw [Ssc.iterate_increment_bitSize, Ssc.iterate_increment_bitSize]
  obtain ⟨_, _, _, _, _, _, k, _, _, _, _, _, _, hvouched⟩ :=
    MrtdSM.vouchedInput_of_unprotectBody hbytes hunprotect
  have hissued := hunforged k hvouched
  rw [hterminal] at hunprotect hvouched
  rcases mem_issued.mp hissued with ⟨m, cmd', hmem, hk⟩ | ⟨m, wire, answer, hmem, hk⟩
  · exact (MrtdSM.unprotectBody_not_reflected (hwidth _ m) hbytes hunprotect hvouched hk).elim
  · obtain ⟨hssc, hr⟩ := MrtdSM.eq_response_of_unprotectBody (hwidth _ m)
      (by rwa [Ssc.iterate_increment_bitSize]) hbytes hunprotect hvouched hk
    have hm : m ≤ c.heard.count := c.heard.reached _ hmem
    obtain rfl := Ssc.iterate_inj hsaid (by omega) hssc
    -- the command it answers is the one that was sent last
    obtain ⟨m', hm', hbefore⟩ := h.justified.answered _ wire answer hmem
    obtain rfl : c.said.count = m' := by omega
    obtain ⟨cmd', hsent, rfl⟩ := h.justified.accepted _ wire hbefore
    obtain rfl := TerminalEntry.sent.inj (Journal.eq_of_mem hsent (h.awaited cmd hcmd))
    exact ⟨answer, hmem, hr⟩

/-- Every event without a forgery keeps the agreement. -/
lemma Agreement.step {event : Event} (hlim : event.InLimits)
    (hunforged : c.Unforged cipher ssc event) :
    Agreement cipher ssc (Conversation.step event c).2 := by
  have hterminal := h.terminal_advance
  have hchip := h.chip_advance
  have hchip₂ : c.chip.advance.advance = ⟨cipher, Ssc.increment^[c.heard.count + 1 + 1] ssc⟩ := by
    rw [hchip, Function.iterate_succ_apply' _ (c.heard.count + 1)]
    rfl
  cases event with
  | command cmd =>
    simp only [Conversation.step]
    rcases send_cases cmd c with heq | heq
    · rw [heq]
      refine ⟨hterminal, h.chip, h.justified.record_sent hlim, ?_⟩
      rintro cmd' ⟨⟩
      exact Journal.mem_record.mpr (.inr rfl)
    · rw [heq]
      exact ⟨hterminal, h.chip, h.justified.tick_said, nofun⟩
  | toChip bytes answer =>
    simp only [Conversation.step]
    rcases serve_cases bytes answer c with ⟨apdu, wire, hparse, hunwrap, heq | heq⟩ | heq
    · obtain ⟨cmd, hsent, rfl⟩ := h.sent_of_unwrap law hsaid hheard hunforged hparse hunwrap
      rw [heq]
      refine ⟨h.terminal, hchip₂, ?_, h.awaited⟩
      exact (h.justified.record_accepted hsent).record_answered (Journal.mem_record.mpr (.inr rfl))
    · obtain ⟨cmd, hsent, rfl⟩ := h.sent_of_unwrap law hsaid hheard hunforged hparse hunwrap
      rw [heq]
      exact ⟨h.terminal, hchip₂, (h.justified.record_accepted hsent).tick_heard, h.awaited⟩
    · rw [heq]
      exact ⟨h.terminal, hchip, h.justified.tick_heard, h.awaited⟩
  | toTerminal bytes =>
    simp only [Conversation.step]
    rcases hcmd : c.awaiting with _ | cmd
    · exact h
    · rcases finish_cases cmd bytes c with ⟨outer, body, r, hbytes, hr, heq⟩ | heq | heq
      · have hanswer := h.answered_of_unprotectBody law hsaid hheard hcmd hunforged hbytes hr
        simp only [heq]
        exact ⟨hterminal, h.chip, h.justified.record_received hanswer, nofun⟩
      · simp only [heq]
        exact ⟨hterminal, h.chip, h.justified.tick_said, nofun⟩
      · simp only [heq]
        exact ⟨h.terminal, h.chip, h.justified, nofun⟩

end Step

/-- An event takes two steps of a counter at most. -/
lemma count_step_le (event : Event) (c : Conversation) :
    (step event c).2.said.count ≤ c.said.count + 1 ∧
      (step event c).2.heard.count ≤ c.heard.count + 2 := by
  cases event with
  | command cmd =>
    simp only [step]
    rcases send_cases cmd c with heq | heq <;> rw [heq] <;> simp
  | toChip bytes answer =>
    simp only [step]
    rcases serve_cases bytes answer c with ⟨_, _, _, _, heq | heq⟩ | heq <;> rw [heq] <;> simp
  | toTerminal bytes =>
    simp only [step]
    rcases c.awaiting with _ | cmd
    · simp
    · rcases finish_cases cmd bytes c with ⟨_, _, _, _, _, heq⟩ | heq | heq <;> simp only [heq] <;>
        simp

lemma count_final_le (events : List Event) (c : Conversation) :
    (Machine.final step c events).said.count ≤ c.said.count + 2 * events.length ∧
      (Machine.final step c events).heard.count ≤ c.heard.count + 2 * events.length := by
  induction events generalizing c with
  | nil => simp
  | cons event events ih =>
    obtain ⟨hsaid, hheard⟩ := count_step_le event c
    obtain ⟨hsaid', hheard'⟩ := ih (step event c).2
    rw [Machine.final_cons, List.length_cons]
    omega

end Conversation

open Conversation in
/-- **Agreement over an untrusted channel.**  From a session just opened, whatever the channel
delivers to either side and in whatever order, as long as no MAC is forged and the run is short of a
turn of the counter: the commands the chip accepts are commands the terminal sent, and the responses
`transceive_cmd` returns are the chip's answers to the very commands it was called with; both in
order, and each at most once. -/
theorem channel_agreement {cipher : SmCipher} {ssc : Ssc} (law : cipher.Lawful ssc.bitSize)
    (events : List Event) (hlim : ∀ event ∈ events, event.InLimits)
    (hshort : 2 * events.length < 2 ^ ssc.bitSize)
    (hunforged : Machine.Every step (Unforged cipher ssc) (start cipher ssc) events) :
    let c := Machine.final step (start cipher ssc) events
    (c.heard.select ChipEntry.accepted?).Sublist (c.said.select TerminalEntry.sent?) ∧
      (c.said.select TerminalEntry.received?).Sublist (c.heard.select ChipEntry.answered?) := by
  intro c
  have hgood : Machine.Every step (fun c event => event.InLimits ∧ c.Unforged cipher ssc event ∧
      c.said.count + 1 < 2 ^ ssc.bitSize ∧ c.heard.count + 1 < 2 ^ ssc.bitSize)
      (start cipher ssc) events := by
    rw [Machine.every_iff] at hunforged ⊢
    intro past event hpast
    obtain ⟨hsaid, hheard⟩ := count_final_le past (start cipher ssc)
    have hlen := hpast.length_le
    rw [List.length_append, List.length_singleton] at hlen
    have hmem : event ∈ events := hpast.subset (List.mem_append_right _ (List.mem_singleton_self _))
    have hcount₀ : (start cipher ssc).said.count = 0 ∧ (start cipher ssc).heard.count = 0 :=
      ⟨rfl, rfl⟩
    exact ⟨hlim event hmem, hunforged past event hpast, by omega, by omega⟩
  have hagreement : Agreement cipher ssc c :=
    Machine.final_invariant_of_every step
      (fun event c h ⟨hlim, hunforged, hsaid, hheard⟩ => h.step law hsaid hheard hlim hunforged)
      agreement_start events hgood
  exact ⟨hagreement.justified.accepted_sublist, hagreement.justified.received_sublist⟩

/-- A protected READ BINARY, and the chip's answer to it. -/
def readOnce : Bytes × Bytes :=
  ([0x0C, 0xB0, 0x00, 0x00, 0x0D, 0x97, 0x01, 0x08, 0x8E, 0x08, 0, 0, 0, 0, 0, 0, 0, 1, 0x00],
    [0x87, 0x09, 0x01, 0x61, 0x02, 0x80, 0, 0, 0, 0, 0, 0x99, 0x02, 0x90, 0x00,
      0x8E, 0x08, 0, 0, 0, 0, 0, 0, 0, 2, 0x90, 0x00])

/-- A read that the chip answers, its answer handed over twice and then once more to the next read,
and the first command handed to the chip a second time. -/
def replayed : List Conversation.Event :=
  [.command ⟨0x00, Ins.readBinary, 0x00, 0x00, none, 8⟩,
    .toChip readOnce.1 ⟨false, StatusWord.success, [0x61, 0x02]⟩,
    .toTerminal readOnce.2,
    .toTerminal readOnce.2,
    .command ⟨0x00, Ins.readBinary, 0x00, 0x08, none, 8⟩,
    .toTerminal readOnce.2,
    .toChip readOnce.1 ⟨false, StatusWord.success, [0x61, 0x02]⟩]

theorem channel_agreement_replayed :
    let c := Machine.final Conversation.step (Conversation.start SmCipher.plain Ssc.zero64) replayed
    (c.heard.select ChipEntry.accepted?).Sublist (c.said.select TerminalEntry.sent?) ∧
      (c.said.select TerminalEntry.received?).Sublist (c.heard.select ChipEntry.answered?) ∧
      (c.said.select TerminalEntry.received?).length = 1 := by
  have hunforged : Machine.Every Conversation.step (Conversation.Unforged SmCipher.plain Ssc.zero64)
      (Conversation.start SmCipher.plain Ssc.zero64) replayed := by decide
  obtain ⟨haccepted, hreceived⟩ := channel_agreement
    (SmCipher.plain_lawful Ssc.zero64.bitSize) replayed (by decide) (by decide) hunforged
  exact ⟨haccepted, hreceived, by decide⟩

end Dmrtd
