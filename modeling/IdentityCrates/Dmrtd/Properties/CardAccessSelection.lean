import IdentityCrates.Dmrtd.Proto.MrtdApiSession

/-!
# Selecting a PACEInfo

EF.CardAccess may offer several ways to run PACE, among other things.  Two tests, written apart,
decide what becomes of a record: `runnable` when the file is parsed, and the checks of
`PaceSession::new` when a session is to be run with it.  They agree (`accepts_iff_runnable`), so the
record that is picked can be run whenever one in the file can, and elements of the file that are no
PACEInfo have no say in it (`EfCardAccess.paceInfo_accepted`).
-/

namespace Dmrtd

open Rust Octets

/-! ## What a session accepts -/

namespace PaceInfo

/-- A record whose verdict on its domain parameters is the one that the parser arrives at. -/
def Judged (info : PaceInfo) : Prop :=
  info.isPaceDomainParameterSupported = (info.parameterId.map fun id =>
    checkDomainParameterSupported id info.protocol.tokenAgreementAlgorithm).getD false

lemma judged_of_fromSequence {asn1 : Asn1} {sequence : Bytes} {info : PaceInfo}
    (h : fromSequence asn1 sequence = .ok info) : info.Judged := by
  obtain ⟨⟨oid, p⟩, -, h⟩ := Outcome.bind_eq_ok.mp h
  obtain ⟨oie, -, h⟩ := Outcome.bind_eq_ok.mp h
  obtain ⟨protocol, -, h⟩ := Outcome.bind_eq_ok.mp h
  obtain ⟨⟨version, p'⟩, -, h⟩ := Outcome.bind_eq_ok.mp h
  dsimp only at h
  split at h
  · simp at h
  obtain ⟨⟨parameterId, p''⟩, -, h⟩ := Outcome.bind_eq_ok.mp h
  dsimp only at h
  split at h
  · simp at h
  rw [← Outcome.ok.inj h]
  rfl

/-- A session can be made with this record: the domain parameters that it names are in range, and
`PaceSession::new` succeeds, given random bytes to draw on. -/
def Accepted (P : Primitives) {κ : Type} (key : κ) (info : PaceInfo) : Prop :=
  ∃ id entropy, MrtdApi.parameterIdOf info = .ok id ∧
    (PaceSession.new P key info.protocol id entropy).isOk = true

/-- A session is refused for this record, whatever random bytes there are to draw on. -/
def Refused (P : Primitives) {κ : Type} (key : κ) (info : PaceInfo) : Prop :=
  (∃ e, MrtdApi.parameterIdOf info = .err e) ∨
    ∃ id entropy e, MrtdApi.parameterIdOf info = .ok id ∧
      PaceSession.new P key info.protocol id entropy = .err e

end PaceInfo

/-! ### The two tables -/

lemma get_eq_none {id : Nat} (h : 18 < id) : DomainParameter.get id = none := by
  have hall : ∀ entry ∈ DomainParameter.icaoDomainParameters, entry.id ≤ 18 := by decide
  rw [DomainParameter.get, List.find?_eq_none]
  intro entry hentry hid
  have hle := hall entry hentry
  rw [beq_iff_eq] at hid
  omega

/-- The supported curves of the table are those of `ECDHPace::new`. -/
lemma isSupported_ecp (id : Nat) :
    ((DomainParameter.get id).map fun entry => entry.isSupported && entry.kind == .ecp).getD false =
      (NamedCurve.ofId id).isSome := by
  by_cases h : 18 < id
  · have hcurve : NamedCurve.ofId id = none := by
      unfold NamedCurve.ofId
      split
      case h_7 => rfl
      all_goals omega
    rw [get_eq_none h, hcurve]
    rfl
  · have hall : ∀ id : Fin 19, ((DomainParameter.get id.val).map fun entry =>
        entry.isSupported && entry.kind == .ecp).getD false = (NamedCurve.ofId id.val).isSome := by
      decide
    exact hall ⟨id, by omega⟩

/-- The supported groups of the table are those of `get_domain_parameter`. -/
lemma isSupported_gfp (id : Nat) :
    ((DomainParameter.get id).map fun entry => entry.isSupported && entry.kind == .gfp).getD false =
      decide (id < 3) := by
  by_cases h : 18 < id
  · rw [get_eq_none h]
    exact (decide_eq_false (by omega)).symm
  · have hall : ∀ id : Fin 19, ((DomainParameter.get id.val).map fun entry =>
        entry.isSupported && entry.kind == .gfp).getD false = decide (id.val < 3) := by
      decide
    exact hall ⟨id, by omega⟩

/-- The domain parameters of an algorithm that the port has an engine for. -/
def hasEngine (algo : TokenAgreementAlgo) (id : Nat) : Bool :=
  match algo with
  | .ecdh => (NamedCurve.ofId id).isSome
  | .dh => decide (id < 3)

/-- The verdict of the parser is whether there is an engine. -/
lemma checkDomainParameterSupported_eq (id : Int) (algo : TokenAgreementAlgo) :
    checkDomainParameterSupported id algo = ((u32OfInt id).map (hasEngine algo)).getD false := by
  unfold checkDomainParameterSupported
  cases u32OfInt id with
  | none => rfl
  | some n =>
    have hecp := isSupported_ecp n
    have hgfp := isSupported_gfp n
    dsimp only [Option.map_some, Option.getD_some]
    cases hget : DomainParameter.get n with
    | none =>
      rw [hget] at hecp hgfp
      cases algo with
      | ecdh => exact hecp
      | dh => exact hgfp
    | some entry =>
      obtain ⟨_, _, _, kind, supported⟩ := entry
      rw [hget] at hecp hgfp
      cases algo with
      | ecdh =>
        refine Eq.trans ?_ hecp
        cases supported <;> cases kind <;> rfl
      | dh =>
        refine Eq.trans ?_ hgfp
        cases supported <;> cases kind <;> rfl

/-! ### The engines -/

lemma drawInRange_ne_err (size lower upper keepBits : Nat) (entropy : Entropy)
    (e : DhPkcs3EngineError) :
    DHpkcs3Engine.drawInRange size lower upper keepBits entropy ≠ .err e := by
  rw [DHpkcs3Engine.drawInRange]
  split <;> simp

/-- In a group with a known subgroup order a key pair can be generated, unless the random bytes run
out. -/
lemma DHpkcs3Engine.new_ne_err {spec : DhParameterSpec} {q : Nat} (hq : spec.q = some q)
    (hlarge : 1 < q) (hp : spec.p ≠ 0) (entropy : Entropy) (e : DhPkcs3EngineError) :
    new spec none entropy ≠ .err e := by
  have hgenerate : generatePrivateKey spec entropy =
      drawInRange (max ((bitCount q + 7) / 8) 1) 1 q (bitCount q) entropy := by
    simp only [generatePrivateKey, hq, if_neg (by omega : ¬ q ≤ 1)]
  simp only [new, hgenerate]
  cases hdraw : drawInRange (max ((bitCount q + 7) / 8) 1) 1 q (bitCount q) entropy with
  | err e' => exact absurd hdraw (drawInRange_ne_err _ _ _ _ _ _)
  | panic => simp
  | ok drawn =>
    obtain ⟨n, rest⟩ := drawn
    obtain ⟨hpos, hlt⟩ := drawInRange_eq_ok hdraw
    have hupper : ¬ n ≥ spec.upper := by
      rw [DhParameterSpec.upper, hq]
      exact Nat.not_le.mpr hlt
    have hne : ¬ n = 0 := by omega
    simp only [Outcome.ok_bind, dif_neg hne, hq, Option.isNone_some, Bool.false_eq_true, false_and,
      if_false, dif_neg hupper, if_neg hp, ne_eq, reduceCtorEq, not_false_eq_true]

lemma getDomainParameter_ne_err {id : Nat} (h : id < 3) (entropy : Entropy) (e : DHPaceError) :
    DHPace.getDomainParameter id entropy ≠ .err e := by
  have hnew : ∀ (id : Nat) (spec : DhParameterSpec), (DomainParameter.get id).isNone = false →
      (∀ e, DHpkcs3Engine.new spec none entropy ≠ .err e) →
      DHPace.new id spec entropy ≠ .err e := by
    intro id spec hget hspec
    rw [DHPace.new, if_neg (by rw [hget]; exact Bool.false_ne_true)]
    cases hengine : DHpkcs3Engine.new spec none entropy with
    | ok engine => simp
    | err e' => exact absurd hengine (hspec e')
    | panic => simp
  rcases (by omega : id = 0 ∨ id = 1 ∨ id = 2) with rfl | rfl | rfl
  · exact hnew 0 rfc5114_1024_160 (by decide) fun e =>
      DHpkcs3Engine.new_ne_err rfl (by decide) (by decide) entropy e
  · exact hnew 1 rfc5114_2048_224 (by decide) fun e =>
      DHpkcs3Engine.new_ne_err rfl (by decide) (by decide) entropy e
  · exact hnew 2 rfc5114_2048_256 (by decide) fun e =>
      DHpkcs3Engine.new_ne_err rfl (by decide) (by decide) entropy e

/-- Random bytes from which the private key one is drawn. -/
def drawsOne (size : Nat) : Entropy := List.replicate (size - 1) 0 ++ [1]

lemma getDomainParameter_isOk {id : Nat} (h : id < 3) :
    ∃ entropy, (DHPace.getDomainParameter id entropy).isOk = true := by
  rcases (by omega : id = 0 ∨ id = 1 ∨ id = 2) with rfl | rfl | rfl
  · exact ⟨drawsOne 20, by decide⟩
  · exact ⟨drawsOne 28, by decide⟩
  · exact ⟨drawsOne 32, by decide⟩

lemma lt_of_getDomainParameter {id : Nat} {entropy : Entropy}
    (h : (DHPace.getDomainParameter id entropy).isOk = true) : id < 3 := by
  by_contra hge
  unfold DHPace.getDomainParameter at h
  split at h
  case h_4 => simp at h
  all_goals omega

/-! ### The session -/

namespace PaceSession

variable (P : Primitives) {κ : Type} (key : κ) (protocol : OiePaceProtocol) (id : Nat)

/-- What `PaceSession::new` asks for. -/
def Runs : Prop :=
  protocol.cipherAlgorithm = .aes ∧ protocol.mappingType = .gm ∧
    hasEngine protocol.tokenAgreementAlgorithm id = true

variable {P protocol id}

/-- A curve in the table has an engine. -/
lemma ECDHPace_new_isOk {c : NamedCurve} (h : NamedCurve.ofId id = some c) :
    ∃ engine, ECDHPace.new P id = .ok engine := by
  have hget : (DomainParameter.get id).isNone = false := by
    have hsupported := isSupported_ecp id
    rw [h] at hsupported
    cases hget : DomainParameter.get id with
    | none => simp [hget] at hsupported
    | some entry => rfl
  refine ⟨⟨c, EcdhEngine.new⟩, ?_⟩
  rw [ECDHPace.new, if_neg (by rw [hget]; exact Bool.false_ne_true), h]

/-- A session that runs is never refused, and can be made if there are random bytes to draw on. -/
lemma new_of_runs (h : Runs protocol id) :
    (∃ entropy, (new P key protocol id entropy).isOk = true) ∧
      ∀ entropy e, new P key protocol id entropy ≠ .err e := by
  obtain ⟨haes, hgm, hengine⟩ := h
  cases halgo : protocol.tokenAgreementAlgorithm with
  | ecdh =>
    rw [halgo] at hengine
    obtain ⟨c, hc⟩ := Option.isSome_iff_exists.mp hengine
    obtain ⟨engine, hnew⟩ := @ECDHPace_new_isOk P id c hc
    have hsupported := isSupported_ecp id
    rw [hc] at hsupported
    have hok : ∀ entropy, new P key protocol id entropy =
        .ok ⟨key, protocol, .ecdh engine, id, entropy, .start⟩ := by
      intro entropy
      simp only [new, newEcdh, halgo, haes, hgm, hsupported, hnew, ne_eq, not_true_eq_false, if_false,
        Option.isSome_some, Outcome.mapErr_ok, Outcome.ok_bind, Outcome.pure_eq]
    exact ⟨⟨[], by rw [hok]; rfl⟩, fun entropy e herr => by rw [hok] at herr; simp at herr⟩
  | dh =>
    rw [halgo] at hengine
    have hlt : id < 3 := of_decide_eq_true hengine
    have hnew : ∀ entropy, new P key protocol id entropy =
        ((DHPace.getDomainParameter id entropy).mapErr PaceSessionError.dh >>= fun engine =>
          .ok ⟨key, protocol, .dh engine.1, id, engine.2, .start⟩) := by
      intro entropy
      simp only [new, newDh, halgo, haes, hgm, ne_eq, not_true_eq_false, if_false, Outcome.pure_eq]
    refine ⟨?_, fun entropy e herr => ?_⟩
    · obtain ⟨entropy, hok⟩ := getDomainParameter_isOk hlt
      obtain ⟨engine, hengine⟩ := Outcome.isOk_iff.mp hok
      refine ⟨entropy, ?_⟩
      rw [hnew, hengine]
      rfl
    · rw [hnew] at herr
      cases hengine : DHPace.getDomainParameter id entropy with
      | ok engine => simp [hengine] at herr
      | err e' => exact getDomainParameter_ne_err hlt entropy e' hengine
      | panic => simp [hengine] at herr

/-- A session that can be made runs. -/
lemma runs_of_new {entropy : Entropy} (h : (new P key protocol id entropy).isOk = true) :
    Runs protocol id := by
  obtain ⟨session, h⟩ := Outcome.isOk_iff.mp h
  cases halgo : protocol.tokenAgreementAlgorithm with
  | ecdh =>
    simp only [new, halgo, newEcdh] at h
    split at h
    · simp at h
    split at h
    · simp at h
    split at h
    · simp at h
    split at h
    · simp at h
    rename_i haes hgm hsupported
    rw [isSupported_ecp] at hsupported
    refine ⟨not_not.mp haes, not_not.mp hgm, ?_⟩
    rw [halgo]
    exact not_not.mp hsupported
  | dh =>
    simp only [new, halgo, newDh] at h
    split at h
    · simp at h
    split at h
    · simp at h
    split at h
    · simp at h
    rename_i haes hgm
    obtain ⟨engine, hengine, -⟩ := Outcome.bind_eq_ok.mp h
    have hok : (DHPace.getDomainParameter id entropy).isOk = true :=
      Outcome.isOk_iff.mpr ⟨engine, Outcome.mapErr_eq_ok.mp hengine⟩
    refine ⟨not_not.mp haes, not_not.mp hgm, ?_⟩
    rw [halgo]
    exact decide_eq_true (lt_of_getDomainParameter hok)

end PaceSession

/-! ## The two tests agree -/

namespace PaceInfo

lemma parameterIdOf_eq (info : PaceInfo) {id : Nat} :
    MrtdApi.parameterIdOf info = .ok id ↔ info.parameterId.bind u32OfInt = some id := by
  rw [MrtdApi.parameterIdOf]
  cases info.parameterId with
  | none => simp
  | some raw =>
    simp only [Outcome.ofOption_some, Outcome.ok_bind, Option.bind_some, u32OfInt]
    split <;> simp

/-- What `runnable` says of a record that has been parsed. -/
lemma runnable_iff {info : PaceInfo} (h : info.Judged) : EfCardAccess.runnable info = true ↔
    ∃ id, MrtdApi.parameterIdOf info = .ok id ∧ PaceSession.Runs info.protocol id := by
  rw [EfCardAccess.runnable, h]
  simp only [Bool.and_eq_true, beq_iff_eq, parameterIdOf_eq, PaceSession.Runs]
  cases info.parameterId with
  | none => simp
  | some raw =>
    rw [Option.map_some, Option.getD_some, checkDomainParameterSupported_eq, Option.bind_some]
    cases u32OfInt raw with
    | none => simp
    | some id =>
      simp only [Option.map_some, Option.getD_some, Option.some.injEq, exists_eq_left']
      tauto

theorem accepted_iff_runnable (P : Primitives) {κ : Type} (key : κ) {info : PaceInfo}
    (h : info.Judged) : info.Accepted P key ↔ EfCardAccess.runnable info = true := by
  rw [runnable_iff h]
  constructor
  · intro haccepted
    obtain ⟨id, entropy, hid, hok⟩ := haccepted
    exact ⟨id, hid, PaceSession.runs_of_new key hok⟩
  · intro hruns
    obtain ⟨id, hid, hruns⟩ := hruns
    obtain ⟨entropy, hok⟩ := (@PaceSession.new_of_runs P κ key _ _ hruns).1
    exact ⟨id, entropy, hid, hok⟩

/-- A runnable record is not refused. -/
lemma not_refused (P : Primitives) {κ : Type} (key : κ) {info : PaceInfo} (h : info.Judged)
    (hrunnable : EfCardAccess.runnable info = true) : ¬ info.Refused P key := by
  obtain ⟨id, hid, hruns⟩ := (runnable_iff h).mp hrunnable
  intro hrefused
  rcases hrefused with ⟨e, herr⟩ | ⟨id', entropy, e, hid', herr⟩
  · rw [hid] at herr
    simp at herr
  · rw [hid, Outcome.ok.injEq] at hid'
    subst hid'
    exact (@PaceSession.new_of_runs P κ key _ _ hruns).2 entropy e herr

end PaceInfo

/-! ## Parsing the file -/

lemma OiePaceProtocol.fromOie_ne_panic (oie : Oie) : OiePaceProtocol.fromOie oie ≠ .panic := by
  refine Outcome.bind_ne_panic ?_ fun params _ => Outcome.bind_ne_panic ?_ fun registered _ => ?_
  · unfold OiePaceProtocol.paramsFromName
    split <;> simp
  · exact Outcome.ofOption_ne_panic _ _
  · split <;> simp

lemma PaceInfo.fromSequence_ne_panic (asn1 : Asn1) (sequence : Bytes) :
    PaceInfo.fromSequence asn1 sequence ≠ .panic := by
  refine Outcome.bind_ne_panic (Outcome.ofOption_ne_panic _ _) fun oid _ => ?_
  refine Outcome.bind_ne_panic (Outcome.ofOption_ne_panic _ _) fun oie _ => ?_
  refine Outcome.bind_ne_panic ?_ fun protocol _ => ?_
  · exact Outcome.mapErr_ne_panic (OiePaceProtocol.fromOie_ne_panic oie)
  refine Outcome.bind_ne_panic (Outcome.ofOption_ne_panic _ _) fun version _ => ?_
  dsimp only
  split
  · simp
  refine Outcome.bind_ne_panic ?_ fun parameterId _ => ?_
  · unfold PaceInfo.readParameterId
    split
    · simp
    · exact Outcome.bind_ne_panic (Outcome.ofOption_ne_panic _ _) fun _ _ => by simp
  · split <;> simp

namespace EfCardAccess

/-- The elements of a SET OF SEQUENCE. -/
def sequences (asn1 : Asn1) (content : Bytes) : Option (List Bytes) :=
  if content.isEmpty then some []
  else
    match _h : asn1.readSequence content with
    | none => none
    | some (sequence, rest) => (sequences asn1 rest).map (sequence :: ·)
termination_by content.length
decreasing_by exact asn1.readSequence_shorter ‹_›

/-- A file that is a SET OF the given SecurityInfo elements. -/
def IsSetOf (asn1 : Asn1) (encoded : Bytes) (infos : List Bytes) : Prop :=
  ∃ content, asn1.parseSet encoded = some content ∧ sequences asn1 content = some infos

/-- The PACEInfo records among them. -/
def paceInfos (asn1 : Asn1) (infos : List Bytes) : List PaceInfo :=
  infos.filterMap fun info => (PaceInfo.fromSequence asn1 info).toOption

lemma judged_of_mem {asn1 : Asn1} {infos : List Bytes} {info : PaceInfo}
    (h : info ∈ paceInfos asn1 infos) : info.Judged := by
  obtain ⟨sequence, -, hinfo⟩ := List.mem_filterMap.mp h
  exact PaceInfo.judged_of_fromSequence (Outcome.toOption_eq_some.mp hinfo)

lemma sequences_of_read {asn1 : Asn1} {content : Bytes} (hempty : ¬ content.isEmpty = true) :
    sequences asn1 content = (asn1.readSequence content).bind fun read =>
      (sequences asn1 read.2).map (read.1 :: ·) := by
  rw [sequences, if_neg hempty]
  split
  · rename_i hread
    rw [hread]
    rfl
  · rename_i sequence rest hread
    rw [hread]
    rfl

/-- The loop collects the PACEInfo records in order. -/
lemma readInfos_eq {asn1 : Asn1} {parser : Bytes} {infos : List Bytes}
    (h : sequences asn1 parser = some infos) (candidates : List PaceInfo)
    (lastErr : Option EfParseError) : ∃ lastErr', readInfos asn1 parser candidates lastErr =
      .ok (candidates ++ paceInfos asn1 infos, lastErr') := by
  fun_induction readInfos asn1 parser candidates lastErr generalizing infos with
  | case1 parser candidates lastErr hempty =>
    rw [sequences, if_pos hempty, Option.some.injEq] at h
    subst h
    exact ⟨lastErr, by simp [paceInfos]⟩
  | case2 parser candidates lastErr hempty hread =>
    rw [sequences_of_read hempty, hread] at h
    simp at h
  | case3 parser candidates lastErr hempty sequence rest hread info hinfo ih =>
    rw [sequences_of_read hempty, hread, Option.bind_some, Option.map_eq_some_iff] at h
    obtain ⟨infos, hrest, rfl⟩ := h
    obtain ⟨lastErr', hloop⟩ := ih hrest
    refine ⟨lastErr', ?_⟩
    rw [hloop, paceInfos, paceInfos, List.filterMap_cons, hinfo, List.append_assoc]
    rfl
  | case4 parser candidates lastErr hempty sequence rest hread e herr ih =>
    rw [sequences_of_read hempty, hread, Option.bind_some, Option.map_eq_some_iff] at h
    obtain ⟨infos, hrest, rfl⟩ := h
    obtain ⟨lastErr', hloop⟩ := ih hrest
    refine ⟨lastErr', ?_⟩
    rw [hloop, paceInfos, paceInfos, List.filterMap_cons, herr]
    rfl
  | case5 parser candidates lastErr hempty sequence rest hread hpanic =>
    exact absurd hpanic (PaceInfo.fromSequence_ne_panic asn1 sequence)

/-! ## The pick -/

/-- What is picked is one of the candidates. -/
lemma pick_lt {candidates : List PaceInfo} (h : candidates ≠ []) :
    pick candidates < candidates.length := by
  have hpos := List.length_pos_of_ne_nil h
  have hfind : ∀ {p : PaceInfo → Bool} {i : Nat}, candidates.findIdx? p = some i →
      i < candidates.length := by
    intro p i hi
    exact (List.findIdx?_eq_some_iff_getElem.mp hi).1
  rw [pick]
  cases hrunnable : candidates.findIdx? runnable with
  | some i => exact hfind hrunnable
  | none =>
    rw [Option.none_or]
    cases hsupported : candidates.findIdx? fun pi => pi.isPaceDomainParameterSupported with
    | some i => exact hfind hsupported
    | none => exact hpos

lemma readInfos_ne_panic (asn1 : Asn1) (parser : Bytes) (candidates : List PaceInfo)
    (lastErr : Option EfParseError) : readInfos asn1 parser candidates lastErr ≠ .panic := by
  fun_induction readInfos asn1 parser candidates lastErr with
  | case1 => exact nofun
  | case2 => exact nofun
  | case3 _ _ _ _ _ _ _ _ _ ih => exact ih
  | case4 _ _ _ _ _ _ _ _ _ ih => exact ih
  | case5 _ _ _ _ sequence _ _ hpanic =>
    exact absurd hpanic (PaceInfo.fromSequence_ne_panic asn1 sequence)

/-- Parsing EF.CardAccess does not panic: there is a candidate to pick. -/
lemma fromBytes_ne_panic (asn1 : Asn1) (encoded : Bytes) : fromBytes asn1 encoded ≠ .panic := by
  refine Outcome.bind_ne_panic (Outcome.ofOption_ne_panic _ _) fun parser _ => ?_
  refine Outcome.ite_ne_panic nofun ?_
  refine Outcome.bind_ne_panic (readInfos_ne_panic _ _ _ _) fun read _ => ?_
  obtain ⟨candidates, lastErr⟩ := read
  by_cases hempty : candidates.isEmpty
  · simp only [hempty]
    exact nofun
  · have hne : candidates ≠ [] := by simpa using hempty
    simp only [hempty, List.getElem?_eq_getElem (pick_lt hne)]
    exact nofun

/-- If one of the candidates can be run, so can the one that is picked. -/
lemma runnable_pick {candidates : List PaceInfo} {info picked : PaceInfo}
    (hmem : info ∈ candidates) (hinfo : runnable info = true)
    (hpicked : candidates[pick candidates]? = some picked) : runnable picked = true := by
  cases hrunnable : candidates.findIdx? runnable with
  | none =>
    have hnone := List.findIdx?_eq_none_iff.mp hrunnable info hmem
    rw [hinfo] at hnone
    exact absurd hnone.symm Bool.false_ne_true
  | some i =>
    have hpick : pick candidates = i := by
      rw [pick, hrunnable]
      rfl
    obtain ⟨hlt, hi, -⟩ := List.findIdx?_eq_some_iff_getElem.mp hrunnable
    rw [hpick, List.getElem?_eq_getElem hlt, Option.some.injEq] at hpicked
    rwa [hpicked] at hi

/-- The parser picks from the PACEInfo records of the file. -/
lemma fromBytes_eq {asn1 : Asn1} {encoded : Bytes} {infos : List Bytes} {picked : PaceInfo}
    (hset : IsSetOf asn1 encoded infos)
    (hpicked : (paceInfos asn1 infos)[pick (paceInfos asn1 infos)]? = some picked) :
    fromBytes asn1 encoded = .ok ⟨encoded, some picked⟩ := by
  obtain ⟨content, hparse, hcontent⟩ := hset
  obtain ⟨lastErr, hloop⟩ := readInfos_eq hcontent [] none
  have hmem := List.mem_of_getElem? hpicked
  have hnonempty : ¬ content.isEmpty = true := by
    intro hempty
    rw [sequences, if_pos hempty, Option.some.injEq] at hcontent
    subst hcontent
    simp [paceInfos] at hmem
  have hcandidates : ¬ (paceInfos asn1 infos).isEmpty = true := by
    rw [List.isEmpty_iff]
    exact List.ne_nil_of_mem hmem
  rw [List.nil_append] at hloop
  simp only [fromBytes, hparse, Outcome.ofOption_some, Outcome.ok_bind, if_neg hnonempty, hloop,
    if_neg hcandidates, hpicked]

/-- **The selection.**  From every file that is a SET OF SecurityInfo elements with a PACEInfo among
them, a PACEInfo is picked; the same one is picked from every other such file with the same PACEInfo
records in the same order, whatever else it contains; and if `PaceSession::new` accepts any of the
records, it accepts the one that is picked. -/
theorem paceInfo_accepted (asn1 : Asn1) (P : Primitives) {κ : Type} (key : κ) {encoded : Bytes}
    {infos : List Bytes} (hset : IsSetOf asn1 encoded infos) (h : paceInfos asn1 infos ≠ []) :
    ∃ picked, fromBytes asn1 encoded = .ok ⟨encoded, some picked⟩ ∧
      picked ∈ paceInfos asn1 infos ∧
      (∀ encoded' infos', IsSetOf asn1 encoded' infos' →
        paceInfos asn1 infos' = paceInfos asn1 infos →
        fromBytes asn1 encoded' = .ok ⟨encoded', some picked⟩) ∧
      ((∃ info ∈ paceInfos asn1 infos, info.Accepted P key) →
        picked.Accepted P key ∧ ¬ picked.Refused P key) := by
  obtain ⟨picked, hpicked⟩ : ∃ picked,
      (paceInfos asn1 infos)[pick (paceInfos asn1 infos)]? = some picked :=
    ⟨_, List.getElem?_eq_getElem (pick_lt h)⟩
  refine ⟨picked, fromBytes_eq hset hpicked, List.mem_of_getElem? hpicked, ?_, ?_⟩
  · intro encoded' infos' hset' hsame
    refine fromBytes_eq hset' ?_
    rw [hsame]
    exact hpicked
  · intro haccepted
    obtain ⟨info, hinfo, haccepted⟩ := haccepted
    have hrunnable := (PaceInfo.accepted_iff_runnable P key (judged_of_mem hinfo)).mp haccepted
    have hjudged := judged_of_mem (List.mem_of_getElem? hpicked)
    have hpickedRuns := runnable_pick hinfo hrunnable hpicked
    exact ⟨(PaceInfo.accepted_iff_runnable P key hjudged).mpr hpickedRuns,
      PaceInfo.not_refused P key hjudged hpickedRuns⟩

/-! ### A file with three elements -/

/-- An element of a DER string under a single-byte tag: its contents and what follows it. -/
def readTlv (tag : Nat) (data : Bytes) : Option (Bytes × Bytes) :=
  match Tlv.decode data with
  | .ok tv => if tv.tag.value = tag then some (tv.value, data.drop tv.encodedLen) else none
  | _ => none

/-- The arcs in the contents of an object identifier, from the arc being read. -/
def readArcs (arc : Nat) : Bytes → List Nat
  | [] => []
  | b :: bs =>
    if b &&& 0x80 = 0x80 then readArcs (arc * 128 + (b &&& 0x7F).toNat) bs
    else (arc * 128 + b.toNat) :: readArcs 0 bs

/-- A reader of DER that knows what the sample below needs: non-negative integers, and object
identifiers under the arcs 0 and 1. -/
def derReader : Asn1 where
  parseSet data := (readTlv 0x31 data).bind fun read =>
    if read.2.isEmpty then some read.1 else none
  readSequence := readTlv 0x30
  readSequence_shorter := by
    intro data sequence rest h
    rw [readTlv] at h
    split at h
    · rename_i tv htv
      split at h
      · obtain ⟨-, rfl⟩ := Prod.mk.inj (Option.some.inj h)
        have hlocal := Tlv.decode_local htv []
        rw [List.length_drop]
        omega
      · simp at h
    · simp at h
  readObjectIdentifier data := (readTlv 0x06 data).bind fun read =>
    match read.1 with
    | [] => none
    | b :: bs => some (b.toNat / 40 :: b.toNat % 40 :: readArcs 0 bs, read.2)
  readInteger data := (readTlv 0x02 data).map fun read => ((ofBE read.1 : Nat), read.2)
  extraData := "ASN.1 parsing error: extra data"

/-- An element that is no PACEInfo, a PACEInfo for integrated mapping on P-256, and one for generic
mapping on it. -/
def sampleInfos : List Bytes :=
  [[0x06, 0x02, 0x2A, 0x03],
    [0x06, 0x0A, 0x04, 0x00, 0x7F, 0x00, 0x07, 0x02, 0x02, 0x04, 0x04, 0x02, 0x02, 0x01, 0x02,
      0x02, 0x01, 0x0C],
    [0x06, 0x0A, 0x04, 0x00, 0x7F, 0x00, 0x07, 0x02, 0x02, 0x04, 0x02, 0x02, 0x02, 0x01, 0x02,
      0x02, 0x01, 0x0C]]

/-- The SET OF them. -/
def sampleFile : Bytes :=
  [0x31, 0x2E] ++ (sampleInfos.map fun info => 0x30 :: UInt8.ofNat info.length :: info).flatten

/-- The last record of the sample. -/
def sampleInfo : PaceInfo :=
  ⟨⟨⟨"0.4.0.127.0.7.2.2.4.2.2", "ID-PACE-ECDH-GM-AES-CBC-CMAC-128",
    [0, 4, 0, 127, 0, 7, 2, 2, 4, 2, 2]⟩, .aes, .s128, .ecdh, .gm⟩, 2, some 12, true⟩

/-- Of the two records the second can be run, and so can what is picked. -/
theorem paceInfo_accepted_sample :
    ∃ picked, fromBytes derReader sampleFile = .ok ⟨sampleFile, some picked⟩ ∧
      picked.Accepted .transparent () := by
  have hset : IsSetOf derReader sampleFile sampleInfos :=
    ⟨sampleFile.drop 2, by decide +kernel, by decide +kernel⟩
  obtain ⟨picked, hparse, -, -, haccepted⟩ := paceInfo_accepted derReader .transparent () hset
    (by decide +kernel)
  have hsample : sampleInfo ∈ paceInfos derReader sampleInfos := by decide +kernel
  exact ⟨picked, hparse,
    (haccepted ⟨sampleInfo, hsample, 12, [], by decide, by decide +kernel⟩).1⟩

end EfCardAccess

end Dmrtd
