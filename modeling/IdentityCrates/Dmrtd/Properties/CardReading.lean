import IdentityCrates.Dmrtd.Proto.CardFiles
import IdentityCrates.Dmrtd.Properties.ChannelTransparency
import IdentityCrates.Dmrtd.Properties.FileReading

/-!
# Reading the files of a card

What a caller of `Passport` gets from a card with files (`CardFiles`) is determined by what is stored
on the card and by the call alone: not by the calls before it, by the file that happens to be
selected, or by how many bytes the card sends at a time.  `PassportCall.expected` says what it is, and
`readings_exact` that it is so for every sequence of calls.
-/

namespace Dmrtd

open Rust Octets

namespace MrtdApi

/-! ## Methods that do not select -/

section Preserves

variable {τ : Type} [Transceiver τ] {R : MrtdApi τ → MrtdApi τ → Prop} (hrefl : ∀ api, R api api)
  (htrans : ∀ ⦃api₁ api₂ api₃⦄, R api₁ api₂ → R api₂ api₃ → R api₁ api₃)
  (hcmd : ∀ cmd : CommandApdu, cmd.InLimits → cmd.ins ≠ Ins.selectFile →
    (transceiveCmd cmd : Proc (MrtdApi τ) MrtdApiError ResponseApdu).Preserves R)

include hrefl htrans hcmd

/-- What every command but SELECT does to the state, a method that sends one does. -/
lemma send_preserves {cla ins p1 p2 : UInt8} {data : Option Bytes} {ne : Nat}
    (hins : ins ≠ Ins.selectFile) :
    (send cla ins p1 p2 data ne : Proc (MrtdApi τ) MrtdApiError ResponseApdu).Preserves R := by
  refine (Proc.preserves_lift hrefl _).bind_of htrans fun api cmd api' h => ?_
  obtain ⟨rfl, hlim⟩ := CommandApdu.new_eq_ok.mp (Outcome.mapErr_eq_ok.mp (Prod.mk.inj h).1)
  exact hcmd _ hlim hins api'

lemma readBinaryBySfi_preserves (sfi offset : UInt8) (ne : Nat) :
    (readBinaryBySfi sfi offset ne : Proc (MrtdApi τ) MrtdApiError Bytes).Preserves R :=
  (send_preserves hrefl htrans hcmd (by decide)).bind htrans fun _ => Proc.preserves_pure hrefl _

lemma readChunk_preserves (totalLen offset : Nat) :
    (readChunk totalLen offset : Proc (MrtdApi τ) MrtdApiError Bytes).Preserves R := by
  unfold readChunk
  split
  · unfold readBinary
    split
    · exact Proc.preserves_fail hrefl _
    · exact (send_preserves hrefl htrans hcmd (by decide)).bind htrans fun _ =>
        Proc.preserves_pure hrefl _
  · refine (Proc.preserves_lift hrefl _).bind htrans fun offsetDo => ?_
    exact (send_preserves hrefl htrans hcmd (by decide)).bind htrans fun _ =>
      Proc.preserves_lift hrefl _

lemma readTail_preserves (totalLen : Nat) (data : Bytes) :
    (readTail totalLen data : Proc (MrtdApi τ) MrtdApiError Bytes).Preserves R := by
  intro api
  have hchunks := readChunk_preserves hrefl htrans hcmd totalLen
  fun_induction readTail totalLen data api with
  | case1 data api hlt api' hchunk =>
    have hstep := hchunks data.length api
    rwa [hchunk] at hstep
  | case2 data api hlt b chunk api' hchunk ih =>
    have hstep := hchunks data.length api
    rw [hchunk] at hstep
    exact htrans hstep ih
  | case3 data api hlt e api' hchunk =>
    have hstep := hchunks data.length api
    rwa [hchunk] at hstep
  | case4 data api hlt api' hchunk =>
    have hstep := hchunks data.length api
    rwa [hchunk] at hstep
  | case5 data api hge => exact hrefl api

lemma readFileBySfi_preserves (sfi : UInt8) :
    (readFileBySfi sfi : Proc (MrtdApi τ) MrtdApiError Bytes).Preserves R := by
  refine (readBinaryBySfi_preserves hrefl htrans hcmd _ _ _).bind htrans fun first => ?_
  split
  · exact Proc.preserves_fail hrefl _
  · refine (Proc.preserves_lift hrefl _).bind htrans fun decoded => ?_
    dsimp only
    split
    · exact Proc.preserves_fail hrefl _
    · exact (readTail_preserves hrefl htrans hcmd _ _).bind htrans fun _ =>
        Proc.preserves_pure hrefl _

end Preserves

/-! ## The commands -/

/-- An open card with files serves what is sent to it. -/
lemma send_files {cla ins p1 p2 : UInt8} {data : Option Bytes} {ne : Nat}
    (hdata : (data.getD []).length ≤ 0xFFFF) (hne : ne ≤ 65536) {card card' : CardFiles}
    {answer : StatusWord × Bytes}
    (hserve : card.serve ⟨[cla, ins, p1, p2], data.getD [], ne⟩ = (answer, card')) :
    send cla ins p1 p2 data ne (new (OpenCard.mk card)) = (judge answer, new ⟨card'⟩) := by
  have hlim : (CommandApdu.mk cla ins p1 p2 data ne).InLimits := ⟨hdata, hne⟩
  have hsent := transceiveCmd_openCard hlim (OpenCard.mk card)
  rw [show CardApplication.serve (CommandApdu.mk cla ins p1 p2 data ne).wire card = _ from hserve]
    at hsent
  rw [send, CommandApdu.new_eq_ok.mpr ⟨rfl, hlim⟩, Outcome.mapErr_ok, Proc.lift_ok_bind_apply]
  exact hsent

/-- Stretches of a run over an open card with files that select nothing: what is stored and the
selected dedicated file stay. -/
def SameSelection (api api' : MrtdApi (OpenCard CardFiles)) : Prop :=
  api.sm = none → api'.sm = none ∧
    api'.transceiver.app.contents = api.transceiver.app.contents ∧
    api'.transceiver.app.df = api.transceiver.app.df

lemma SameSelection.refl (api : MrtdApi (OpenCard CardFiles)) : SameSelection api api :=
  fun h => ⟨h, rfl, rfl⟩

lemma SameSelection.trans ⦃api₁ api₂ api₃ : MrtdApi (OpenCard CardFiles)⦄
    (h : SameSelection api₁ api₂) (h' : SameSelection api₂ api₃) : SameSelection api₁ api₃ := by
  intro hsm
  obtain ⟨hsm₂, hcontents, hdf⟩ := h hsm
  obtain ⟨hsm₃, hcontents', hdf'⟩ := h' hsm₂
  exact ⟨hsm₃, hcontents'.trans hcontents, hdf'.trans hdf⟩

end MrtdApi

namespace CardFiles

/-- Only SELECT changes what is selected, and nothing changes what is stored. -/
lemma serve_kept (self : CardFiles) (cla : UInt8) {ins : UInt8} (h : ins ≠ Ins.selectFile)
    (p1 p2 : UInt8) (body : Bytes) (ne : Nat) :
    (self.serve ⟨[cla, ins, p1, p2], body, ne⟩).2.contents = self.contents ∧
      (self.serve ⟨[cla, ins, p1, p2], body, ne⟩).2.df = self.df := by
  simp only [serve, if_neg h]
  repeat' split
  · unfold readBinary
    repeat' split
    all_goals exact ⟨rfl, rfl⟩
  · unfold readBinaryExt
    split
    · dsimp only
      split <;> exact ⟨rfl, rfl⟩
    · exact ⟨rfl, rfl⟩
  · exact ⟨rfl, rfl⟩
  · exact ⟨rfl, rfl⟩

end CardFiles

namespace MrtdApi

lemma transceiveCmd_sameSelection {cmd : CommandApdu} (hlim : cmd.InLimits)
    (hins : cmd.ins ≠ Ins.selectFile) :
    (transceiveCmd cmd : Proc (MrtdApi (OpenCard CardFiles)) MrtdApiError ResponseApdu).Preserves
      SameSelection := by
  rintro ⟨⟨card⟩, _⟩ rfl
  have hkept := card.serve_kept cmd.cla hins cmd.p1 cmd.p2 cmd.body cmd.ne
  rw [transceiveCmd_openCard hlim]
  exact ⟨rfl, hkept.1, hkept.2⟩

/-- So a file is read without a change of the selection. -/
lemma readFileBySfi_sameSelection (sfi : UInt8) :
    (readFileBySfi sfi : Proc (MrtdApi (OpenCard CardFiles)) MrtdApiError Bytes).Preserves
      SameSelection :=
  readFileBySfi_preserves SameSelection.refl SameSelection.trans
    (fun _ hlim hins => transceiveCmd_sameSelection hlim hins) sfi

lemma selectMasterFile_files (card : CardFiles) :
    selectMasterFile (new (OpenCard.mk card)) =
      (.ok (), new ⟨{ card with df := .mf, current := none }⟩) := by
  have hserve : card.serve ⟨[Cla.noSm, Ins.selectFile, SelectFileP1.byId,
      SelectFileP2.noResponseData], [0x3F, 0x00], 0⟩ =
      ((StatusWord.success, []), { card with df := .mf, current := none }) := rfl
  have hsend : send Cla.noSm Ins.selectFile SelectFileP1.byId SelectFileP2.noResponseData
      (some [0x3F, 0x00]) 0 (new (OpenCard.mk card)) = _ :=
    send_files (by decide) (by decide) hserve
  rw [selectMasterFile, Proc.bind_apply, hsend]
  rfl

lemma selectEmrtdApplication_files (card : CardFiles) :
    selectEmrtdApplication (new (OpenCard.mk card)) =
      (.ok (), new ⟨{ card with df := .df1, current := none }⟩) := by
  have hserve : card.serve ⟨[Cla.noSm, Ins.selectFile, SelectFileP1.byDfName,
      SelectFileP2.noResponseData], aid, 0⟩ =
      ((StatusWord.success, []), { card with df := .df1, current := none }) := rfl
  have hsend : send Cla.noSm Ins.selectFile SelectFileP1.byDfName SelectFileP2.noResponseData
      (some aid) 0 (new (OpenCard.mk card)) = _ := send_files (by decide) (by decide) hserve
  rw [selectEmrtdApplication, Proc.bind_apply, hsend]
  rfl

/-! ## Files -/

lemma sfi_in_p1 (sfi : UInt8) :
    (0x80 ||| (sfi &&& 0x1F)) &&& 0x80 = 0x80 ∧ (0x80 ||| (sfi &&& 0x1F)) &&& 0x1F = sfi &&& 0x1F := by
  revert sfi
  exact forall_byte (by decide +kernel)

lemma short_p1 (p1 : UInt8) : p1 < 0x80 → ¬ p1 &&& 0x80 = 0x80 := by
  revert p1
  exact forall_byte (by decide +kernel)

/-- A piece of a file from within it is not empty. -/
lemma piece_ne_nil (contents : CardContents) {file : ElementaryFile} {offset ne : Nat}
    (hoff : offset < file.bytes.length) (hne : 0 < ne) :
    CardFiles.piece contents file offset ne ≠ [] := by
  have hchunk := contents.le_chunk
  refine List.ne_nil_of_length_pos ?_
  rw [CardFiles.piece, List.length_take, List.length_drop]
  omega

lemma judge_success {data : Bytes} (h : data ≠ []) :
    judge (StatusWord.success, data) = .ok ⟨StatusWord.success, some data⟩ := by
  rw [judge, if_neg (not_not.mpr rfl), if_neg h]

lemma judge_failure {sw : StatusWord} {data : Bytes} (h : sw ≠ StatusWord.success) :
    judge (sw, data) = .err (.chipStatus sw) := if_pos h

/-- A card with files reads one of them as a conforming chip. -/
lemma files_conforming {contents : CardContents} {df : SelectedDf} {sfi : UInt8}
    {file : ElementaryFile} (hfile : contents.file df (sfi &&& 0x1F) = some file) :
    ConformingReads file.bytes sfi
      (fun api : MrtdApi (OpenCard CardFiles) =>
        ∃ card, api = new ⟨card⟩ ∧ card.contents = contents ∧ card.df = df)
      (fun api : MrtdApi (OpenCard CardFiles) =>
        ∃ card, api = new ⟨card⟩ ∧ card.contents = contents ∧ card.current = some file) := by
  refine ⟨?_, ?_⟩
  · rintro _ cmd ⟨card, rfl, rfl, rfl⟩ hlim ⟨hins, hp1⟩ hoff hpos
    have hserve : card.serve cmd.wire =
        ((StatusWord.success, CardFiles.piece card.contents file cmd.p2.toNat cmd.ne),
          { card with current := some file }) := by
      obtain ⟨hshort, hid⟩ := sfi_in_p1 sfi
      simp only [CardFiles.serve, CommandApdu.wire, CommandApdu.rawHeader, hins,
        if_neg (show ¬ Ins.readBinary = Ins.selectFile by decide), if_true, CardFiles.readBinary,
        hp1, hshort, hid, hfile, CardFiles.slice, if_pos hoff]
    refine ⟨min cmd.ne card.contents.chunk, new ⟨{ card with current := some file }⟩, ?_,
      Nat.min_le_left _ _, ?_, _, rfl, rfl, rfl⟩
    · have hchunk := card.contents.le_chunk
      omega
    · have hsent := transceiveCmd_openCard hlim (OpenCard.mk card)
      rw [show CardApplication.serve cmd.wire card = _ from hserve,
        judge_success (piece_ne_nil _ hoff hpos)] at hsent
      exact hsent
  · rintro _ cmd offset ⟨card, rfl, rfl, hcurrent⟩ hlim hreads hoff hpos
    have hn : 1 ≤ min cmd.ne card.contents.chunk := by
      have hchunk := card.contents.le_chunk
      omega
    have hpiece := piece_ne_nil card.contents hoff hpos
    cases hreads with
    | even hins hp1 hoffset =>
      have hserve : card.serve cmd.wire =
          ((StatusWord.success, CardFiles.piece card.contents file offset cmd.ne), card) := by
        simp only [CardFiles.serve, CommandApdu.wire, CommandApdu.rawHeader, hins,
          if_neg (show ¬ Ins.readBinary = Ins.selectFile by decide), if_true, CardFiles.readBinary,
          if_neg (short_p1 cmd.p1 hp1), hcurrent, ← hoffset, CardFiles.slice, if_pos hoff]
      refine ⟨_, CardFiles.piece card.contents file offset cmd.ne, new ⟨card⟩, hn,
        Nat.min_le_left _ _, ?_, ?_, card, rfl, rfl, hcurrent⟩
      · rw [Presents, hins, if_neg (by decide)]
        rfl
      · have hsent := transceiveCmd_openCard hlim (OpenCard.mk card)
        rw [show CardApplication.serve cmd.wire card = _ from hserve, judge_success hpiece] at hsent
        exact hsent
    | @odd tv hins hp1 hp2 htv htag hwhole hoffset =>
      have hlen := CardFiles.length_piece_le card.contents file offset cmd.ne
      obtain ⟨wrapped, hwrapped⟩ : ∃ wrapped, (Tlv.encode 0x53
          (CardFiles.piece card.contents file offset cmd.ne) : Outcome TlvError Bytes) =
          .ok wrapped := Tlv.encode_isOk (by omega)
      have hnil : wrapped ≠ [] := by
        obtain ⟨l, -, rfl⟩ := Tlv.encode_eq_ok.mp hwrapped
        simp [Tlv.encodeTag_of_lt]
      have hserve : card.serve cmd.wire = ((StatusWord.success, wrapped), card) := by
        simp only [CardFiles.serve, CommandApdu.wire, CommandApdu.rawHeader, hins,
          if_neg (show ¬ Ins.readBinaryExt = Ins.selectFile by decide),
          if_neg (show ¬ Ins.readBinaryExt = Ins.readBinary by decide), if_true,
          CardFiles.readBinaryExt, hcurrent, htv, Outcome.toOption_ok, ← hoffset, CardFiles.slice,
          if_pos hoff, hwrapped, if_neg hpiece]
      refine ⟨_, wrapped, new ⟨card⟩, hn, Nat.min_le_left _ _, ?_, ?_, card, rfl, rfl, hcurrent⟩
      · rw [Presents, hins, if_pos rfl]
        exact hwrapped
      · have hsent := transceiveCmd_openCard hlim (OpenCard.mk card)
        rw [show CardApplication.serve cmd.wire card = _ from hserve, judge_success hnil] at hsent
        exact hsent

end MrtdApi

/-- What `read_file_by_sfi` should make of the file `sfi`: its object, unless there is no such file or
the object is too large. -/
def CardContents.object (contents : CardContents) (df : SelectedDf) (sfi : UInt8) :
    Outcome MrtdApiError Bytes :=
  match contents.file df (sfi &&& 0x1F) with
  | some file =>
    if file.size > MrtdApi.maxFileLen then .err (.fileTooLarge file.size) else .ok file.object
  | none => .err (.chipStatus CardFiles.fileNotFound)

namespace ElementaryFile

variable (file : ElementaryFile)

/-- The header of a file stands in its first eight bytes. -/
lemma decodes_take : Tlv.decodeTagAndLength (file.bytes.take 8) = .ok file.header := by
  have hlocal := (Tlv.decodeTagAndLength_local file.decodes
    ((file.bytes.take 8).drop file.header.encodedLen)).2.2
  have hle := (Tlv.decodeTagAndLength_bounds file.decodes).1
  have htake : file.bytes.take file.header.encodedLen =
      (file.bytes.take 8).take file.header.encodedLen := by
    rw [List.take_take, Nat.min_eq_left hle]
  rwa [htake, List.take_append_drop] at hlocal

lemma two_le_length : 2 ≤ (file.bytes.take 8).length := by
  obtain ⟨hlow, hhigh, -⟩ := Tlv.decodeTagAndLength_local file.decodes []
  rw [List.length_take]
  omega

lemma bytes_ne_nil : file.bytes ≠ [] := by
  have hlen := file.two_le_length
  rintro hnil
  rw [hnil] at hlen
  simp at hlen

end ElementaryFile

namespace MrtdApi

/-- The first read of a file gives its first eight bytes. -/
lemma readBinaryBySfi_files {card : CardFiles} {sfi : UInt8} {file : ElementaryFile}
    (hfile : card.contents.file card.df (sfi &&& 0x1F) = some file) :
    readBinaryBySfi sfi 0 headerChunkLen (new (OpenCard.mk card)) =
      (.ok (file.bytes.take 8), new ⟨{ card with current := some file }⟩) := by
  obtain ⟨hshort, hid⟩ := sfi_in_p1 sfi
  have hpos : 0 < file.bytes.length := List.length_pos_iff.mpr file.bytes_ne_nil
  have hpiece : CardFiles.piece card.contents file 0 8 = file.bytes.take 8 := by
    rw [CardFiles.piece, List.drop_zero, Nat.min_eq_left card.contents.le_chunk]
  have hserve : card.serve ⟨[Cla.noSm, Ins.readBinary, 0x80 ||| (sfi &&& 0x1F), 0], [], 8⟩ =
      ((StatusWord.success, file.bytes.take 8), { card with current := some file }) := by
    simp only [CardFiles.serve, if_neg (show ¬ Ins.readBinary = Ins.selectFile by decide), if_true,
      CardFiles.readBinary, hshort, hid, hfile, CardFiles.slice, UInt8.toNat_zero, if_pos hpos,
      hpiece]
  have hne : file.bytes.take 8 ≠ [] := by
    rw [← hpiece]
    exact piece_ne_nil _ hpos (by decide)
  have hsend : send Cla.noSm Ins.readBinary (0x80 ||| (sfi &&& 0x1F)) 0 none headerChunkLen
      (new (OpenCard.mk card)) = _ := send_files (by decide) (by decide) hserve
  rw [judge_success hne] at hsend
  rw [readBinaryBySfi, Proc.bind_apply_ok hsend]
  rfl

/-- A file that the card does not have. -/
lemma readFileBySfi_noFile {card : CardFiles} {sfi : UInt8}
    (hfile : card.contents.file card.df (sfi &&& 0x1F) = none) :
    readFileBySfi sfi (new (OpenCard.mk card)) =
      (.err (.chipStatus CardFiles.fileNotFound), new ⟨card⟩) := by
  obtain ⟨hshort, hid⟩ := sfi_in_p1 sfi
  have hserve : card.serve ⟨[Cla.noSm, Ins.readBinary, 0x80 ||| (sfi &&& 0x1F), 0], [], 8⟩ =
      ((CardFiles.fileNotFound, []), card) := by
    simp only [CardFiles.serve, if_neg (show ¬ Ins.readBinary = Ins.selectFile by decide), if_true,
      CardFiles.readBinary, hshort, hid, hfile]
  have hsend : send Cla.noSm Ins.readBinary (0x80 ||| (sfi &&& 0x1F)) 0 none headerChunkLen
      (new (OpenCard.mk card)) = _ := send_files (by decide) (by decide) hserve
  rw [judge_failure (by decide)] at hsend
  have hread : readBinaryBySfi sfi 0 headerChunkLen (new (OpenCard.mk card)) =
      (.err (.chipStatus CardFiles.fileNotFound), new ⟨card⟩) := by
    rw [readBinaryBySfi, Proc.bind_apply_err hsend]
  rw [readFileBySfi, Proc.bind_apply_err hread]

/-- A file is read as it is stored, whatever the card was asked before, and the selection stays. -/
lemma readFileBySfi_files (card : CardFiles) (sfi : UInt8) :
    ∃ card', readFileBySfi sfi (new (OpenCard.mk card)) =
        (card.contents.object card.df sfi, new ⟨card'⟩) ∧
      card'.contents = card.contents ∧ card'.df = card.df := by
  have hkept := readFileBySfi_sameSelection sfi (new ⟨card⟩) rfl
  have hout : (readFileBySfi sfi (new (OpenCard.mk card))).1 =
      card.contents.object card.df sfi := by
    unfold CardContents.object
    cases hfile : card.contents.file card.df (sfi &&& 0x1F) with
    | none => rw [readFileBySfi_noFile hfile]
    | some file =>
      have hlen := file.two_le_length
      have hdecl : Declares sfi (new (OpenCard.mk card)) (file.bytes.take 8) file.size
          (new ⟨{ card with current := some file }⟩) :=
        ⟨readBinaryBySfi_files hfile, hlen, file.header, file.decodes_take, rfl⟩
      rw [readFileBySfi_of_declares hdecl]
      by_cases hmax : file.size > maxFileLen
      · rw [if_pos hmax]
        exact (if_pos hmax).symm
      · obtain ⟨m, api', hm, htail⟩ : ∃ m api', file.size ≤ (file.bytes.take m).length ∧
            readTail file.size (file.bytes.take 8)
              (new (OpenCard.mk { card with current := some file })) =
              (.ok (file.bytes.take m), api') :=
          readTail_conforming (files_conforming hfile)
            ⟨{ card with current := some file }, rfl, rfl, rfl⟩ file.whole (Nat.le_of_not_gt hmax)
        rw [List.length_take] at hm
        rw [if_neg hmax, Proc.bind_apply_ok htail, Proc.pure_apply, List.take_take,
          Nat.min_eq_left (by omega)]
        exact (if_neg hmax).symm
  generalize readFileBySfi sfi (new (OpenCard.mk card)) = result at hkept hout
  obtain ⟨out, ⟨⟨card'⟩, sm⟩⟩ := result
  obtain ⟨hsm, hcontents, hdf⟩ := hkept
  obtain rfl : sm = none := hsm
  obtain rfl : out = _ := hout
  exact ⟨card', rfl, hcontents, hdf⟩

end MrtdApi

/-! ## Active Authentication -/

/-- What `active_authenticate` should make of a challenge. -/
def CardContents.response (contents : CardContents) (challenge : Bytes) :
    Outcome MrtdApiError Bytes :=
  if challenge.length ≠ 8 then .err (.invalidChallengeLen challenge.length)
  else
    match contents.sign challenge with
    | some [] => .err (.response "empty response to INTERNAL AUTHENTICATE")
    | some (b :: bytes) => .ok (b :: bytes)
    | none => .err (.chipStatus CardFiles.conditionsNotSatisfied)

lemma MrtdApi.activeAuthenticate_files (card : CardFiles) (challenge : Bytes) :
    activeAuthenticate challenge (new (OpenCard.mk card)) =
      (card.contents.response challenge, new ⟨card⟩) := by
  unfold activeAuthenticate CardContents.response
  by_cases hlen : challenge.length = 8
  swap
  · rw [if_pos hlen, if_pos hlen]
    rfl
  rw [if_neg (not_not.mpr hlen), if_neg (not_not.mpr hlen)]
  have hserve : card.serve ⟨[Cla.noSm, Ins.internalAuthenticate, 0, 0], challenge, 256⟩ =
      (CardFiles.internalAuthenticate challenge card, card) := rfl
  have hdata : ((some challenge).getD []).length ≤ 0xFFFF := by
    rw [Option.getD_some, hlen]
    decide
  have hsend : send Cla.noSm Ins.internalAuthenticate 0x00 0x00 (some challenge) 256
      (new (OpenCard.mk card)) = _ := send_files hdata (by decide) hserve
  unfold CardFiles.internalAuthenticate at hsend
  rcases hsign : card.contents.sign challenge with _ | _ | ⟨b, bytes⟩
  · rw [hsign, judge_failure (by decide)] at hsend
    rw [Proc.bind_apply_err hsend]
  · rw [hsign] at hsend
    rw [Proc.bind_apply_ok hsend]
    rfl
  · rw [hsign, judge_success (List.cons_ne_nil _ _)] at hsend
    rw [Proc.bind_apply_ok hsend]
    rfl

/-! ## Sequences of calls -/

/-- What reading and parsing a file should come to. -/
def CardContents.read {ρ : Type} (contents : CardContents) (df : SelectedDf) (sfi : UInt8)
    (parse : Bytes → Outcome EfParseError ρ) : Outcome PassportError ρ := do
  let bytes ← (contents.object df sfi).mapErr PassportError.fromApi
  (parse bytes).mapErr .fromParse

/-- What a call should return, by what is stored on the card alone. -/
def PassportCall.expected {ρ : Type} (contents : CardContents) :
    PassportCall ρ → Outcome PassportError (PassportAnswer ρ)
  | .readEfCardAccess parse => do return .contents (← contents.read .mf efCardAccessSfi parse)
  | .readEfCardSecurity parse => do return .contents (← contents.read .mf efCardSecuritySfi parse)
  | .readDf1 file parse => do return .contents (← contents.read .df1 file.sfi parse)
  | .activeAuthenticate challenge => do
    return .response (← (contents.response challenge).mapErr PassportError.fromApi)
  | .verifyActiveAuthentication parse verify challenge => do
    let dg15 ← contents.read .df1 (Df1File.dg 14).sfi parse
    let response ← (contents.response challenge).mapErr PassportError.fromApi
    (verify dg15 challenge response).mapErr .fromMessage
    return .verified

namespace Passport

/-- A passport without a session over an open card with these contents, whose note of what is
selected is right. -/
def Reads (contents : CardContents) (p : Passport (OpenCard CardFiles)) : Prop :=
  ∃ card : CardFiles, p.api = MrtdApi.new ⟨card⟩ ∧ card.contents = contents ∧
    (p.df ≠ .none → card.df = p.df)

/-- The method returns `x`, and the passport can be read on. -/
abbrev Returns {α : Type} (contents : CardContents)
    (m : Proc (Passport (OpenCard CardFiles)) PassportError α) (x : Outcome PassportError α) : Prop :=
  Proc.Yields (Reads contents) m x

variable {contents : CardContents} {α β ρ : Type}

/-- Selecting succeeds, and what is selected is noted. -/
lemma selectMf_reads {p : Passport (OpenCard CardFiles)} (h : Reads contents p) :
    ∃ card : CardFiles, selectMf p = (.ok (), ⟨MrtdApi.new ⟨card⟩, .mf⟩) ∧
      card.contents = contents ∧ card.df = .mf := by
  obtain ⟨api, df⟩ := p
  obtain ⟨card, rfl, rfl, hdf⟩ := h
  by_cases hmf : df = .mf
  · subst hmf
    exact ⟨card, rfl, rfl, hdf (by simp)⟩
  · refine ⟨{ card with df := .mf, current := none }, ?_, rfl, rfl⟩
    have hselect : onApi MrtdApi.selectMasterFile (Passport.mk (MrtdApi.new (OpenCard.mk card)) df) =
        (.ok (), ⟨MrtdApi.new ⟨{ card with df := .mf, current := none }⟩, df⟩) := by
      rw [onApi, MrtdApi.selectMasterFile_files]
      rfl
    rw [selectMf, Proc.get_bind_apply, if_pos hmf, Proc.bind_apply_ok hselect]
    rfl

lemma selectDf1_reads {p : Passport (OpenCard CardFiles)} (h : Reads contents p) :
    ∃ card : CardFiles, selectDf1 p = (.ok (), ⟨MrtdApi.new ⟨card⟩, .df1⟩) ∧
      card.contents = contents ∧ card.df = .df1 := by
  obtain ⟨api, df⟩ := p
  obtain ⟨card, rfl, rfl, hdf⟩ := h
  by_cases hdf1 : df = .df1
  · subst hdf1
    exact ⟨card, rfl, rfl, hdf (by simp)⟩
  · refine ⟨{ card with df := .df1, current := none }, ?_, rfl, rfl⟩
    have hselect : onApi MrtdApi.selectEmrtdApplication
        (Passport.mk (MrtdApi.new (OpenCard.mk card)) df) =
        (.ok (), ⟨MrtdApi.new ⟨{ card with df := .df1, current := none }⟩, df⟩) := by
      rw [onApi, MrtdApi.selectEmrtdApplication_files]
      rfl
    rw [selectDf1, Proc.get_bind_apply, if_pos hdf1, Proc.bind_apply_ok hselect]
    rfl

/-- With the dedicated file selected, a file in it is read and parsed. -/
lemma readFile_returns {card : CardFiles} {df : SelectedDf} (hcontents : card.contents = contents)
    (hdf : card.df = df) (sfi : UInt8) (parse : Bytes → Outcome EfParseError ρ) :
    ∃ p, (onApi (MrtdApi.readFileBySfi sfi) >>= fun bytes =>
        Proc.lift ((parse bytes).mapErr PassportError.fromParse))
        (Passport.mk (MrtdApi.new (OpenCard.mk card)) df) = (contents.read df sfi parse, p) ∧
      Reads contents p := by
  obtain ⟨card', hread, hcontents', hdf'⟩ := MrtdApi.readFileBySfi_files card sfi
  have hapi : onApi (MrtdApi.readFileBySfi sfi) (Passport.mk (MrtdApi.new (OpenCard.mk card)) df) =
      ((contents.object df sfi).mapErr .fromApi, ⟨MrtdApi.new ⟨card'⟩, df⟩) := by
    rw [onApi, hread, hcontents, hdf]
  refine ⟨⟨MrtdApi.new ⟨card'⟩, df⟩, ?_, card', rfl, hcontents'.trans hcontents,
    fun _ => hdf'.trans hdf⟩
  rw [Proc.bind_apply, hapi, CardContents.read]
  cases (contents.object df sfi).mapErr PassportError.fromApi <;> rfl

lemma readMf_returns (sfi : UInt8) (parse : Bytes → Outcome EfParseError ρ) :
    Returns contents (selectMf >>= fun _ => onApi (MrtdApi.readFileBySfi sfi) >>= fun bytes =>
        Proc.lift ((parse bytes).mapErr PassportError.fromParse)) (contents.read .mf sfi parse) := by
  intro p hp
  obtain ⟨card, hselect, hcontents, hdf⟩ := selectMf_reads hp
  obtain ⟨p', hread, hp'⟩ := readFile_returns hcontents hdf sfi parse
  rw [Proc.bind_apply_ok hselect, hread]
  exact ⟨rfl, hp'⟩

lemma readDf1_returns (file : Df1File) (parse : Bytes → Outcome EfParseError ρ) :
    Returns contents (readDf1 file parse) (contents.read .df1 file.sfi parse) := by
  intro p hp
  obtain ⟨card, hselect, hcontents, hdf⟩ := selectDf1_reads hp
  obtain ⟨p', hread, hp'⟩ := readFile_returns hcontents hdf file.sfi parse
  rw [readDf1, readDf1BySfi, Proc.bind_apply_ok hselect, hread]
  exact ⟨rfl, hp'⟩

lemma activeAuthenticate_returns (challenge : Bytes) :
    Returns contents (activeAuthenticate challenge)
      ((contents.response challenge).mapErr .fromApi) := by
  rintro ⟨api, df⟩ ⟨card, rfl, rfl, hdf⟩
  rw [activeAuthenticate, onApi, MrtdApi.activeAuthenticate_files]
  exact ⟨rfl, card, rfl, rfl, hdf⟩

end Passport

lemma PassportCall.run_returns {ρ : Type} (contents : CardContents) (call : PassportCall ρ) :
    Passport.Returns contents call.run (call.expected contents) := by
  cases call with
  | readEfCardAccess parse =>
    exact (Passport.readMf_returns _ parse).bind fun _ => Proc.yields_lift _
  | readEfCardSecurity parse =>
    exact (Passport.readMf_returns _ parse).bind fun _ => Proc.yields_lift _
  | readDf1 file parse =>
    exact (Passport.readDf1_returns file parse).bind fun _ => Proc.yields_lift _
  | activeAuthenticate challenge =>
    exact (Passport.activeAuthenticate_returns challenge).bind fun _ => Proc.yields_lift _
  | verifyActiveAuthentication parse verify challenge =>
    have hverify : Passport.Returns contents
        (Passport.verifyActiveAuthentication parse verify challenge) (do
          let dg15 ← contents.read .df1 (Df1File.dg 14).sfi parse
          let response ← (contents.response challenge).mapErr PassportError.fromApi
          (verify dg15 challenge response).mapErr .fromMessage) :=
      (Passport.readDf1_returns _ parse).bind fun dg15 =>
        (Passport.activeAuthenticate_returns challenge).bind fun _ => Proc.yields_lift _
    have hcall := hverify.bind fun _ => Proc.yields_lift (.ok (PassportAnswer.verified (ρ := ρ)))
    rw [bind_assoc] at hcall
    simp only [bind_assoc] at hcall
    exact hcall

/-- **Exact readings.**  Over a card with files, every call of every sequence returns what the
contents of the card and the call alone determine: the object of the file that the call names, parsed,
or the error for a file that is missing or too large; the card's signature of the challenge, or the
error for a challenge of the wrong length or a card that does not sign. -/
theorem readings_exact {ρ : Type} {contents : CardContents} {p : Passport (OpenCard CardFiles)}
    (h : Passport.Reads contents p) (calls : List (PassportCall ρ)) :
    Machine.trace PassportCall.run p calls =
      calls.map (fun call => (call, call.expected contents)) ∧
    Passport.Reads contents (Machine.final PassportCall.run p calls) :=
  Machine.trace_eq_map _ _
    (fun call p hp (_ : True) => PassportCall.run_returns contents call p hp) h calls
    fun _ _ => trivial

/-- The file, a file that there is not, the file again, and a signature. -/
def sampleCalls : List (PassportCall Bytes) :=
  [.readDf1 (.dg 0) .ok, .readEfCardAccess .ok, .readDf1 (.dg 0) .ok,
    .activeAuthenticate [1, 2, 3, 4, 5, 6, 7, 8]]

/-- What they should return. -/
def sampleAnswers : List (Outcome PassportError (PassportAnswer Bytes)) :=
  [.ok (.contents [0x61, 0x0A, 0, 1, 2, 3, 4, 5, 6, 7, 8, 9]),
    .err (.fromApi (.chipStatus CardFiles.fileNotFound)),
    .ok (.contents [0x61, 0x0A, 0, 1, 2, 3, 4, 5, 6, 7, 8, 9]),
    .err (.fromApi (.chipStatus CardFiles.conditionsNotSatisfied))]

theorem readings_exact_sample :
    (Machine.trace PassportCall.run
      (Passport.new (OpenCard.mk (CardFiles.mk sampleContents .none none))) sampleCalls).map Prod.snd =
      sampleAnswers := by
  have hreads : Passport.Reads sampleContents
      (Passport.new (OpenCard.mk (CardFiles.mk sampleContents .none none))) :=
    ⟨_, rfl, rfl, fun h => absurd rfl h⟩
  rw [(readings_exact hreads sampleCalls).1, List.map_map]
  rfl

end Dmrtd
