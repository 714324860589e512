import IdentityCrates.MdlVerify.Transcript

/-!
# Session transcripts bind the session

Device authentication signs the transcript, so a transcript must say which session it belongs to.
Three builders make transcripts, over nested arrays of texts and digests.  `Call` is a call of one
of them with everything it was given, and the result is that the bytes of a transcript determine
the call: the profile, and each text and thumbprint.

The argument goes down the layers.  Equal bytes are equal values, since encoding is injective; the
handovers are then equal, so they have the same profile and the same digests; and equal digests are
digests of equal inputs, unless the two calls found a collision (`CollisionFree` excludes those, and
only among what the two calls hash).

A transcript that is adopted from outside (`fromCbor`) is the bytes it was adopted from, and so is
what any CBOR serializer writes for it.
-/

namespace MdlVerify

open Cbor (Value)
open Octets Text
open SessionTranscript

/-! ## Calls -/

/-- A call of one of the builders of OpenID4VP transcripts. -/
inductive Call where
  | openid4vp1_0 (clientId nonce : Str) (jwkThumbprint : Option Bytes) (responseUri : Str)
  | openid4vpDcapi (origin nonce : Str) (jwkThumbprint : Option Bytes)
  | openid4vpIso18013_7 (clientId responseUri nonce mdocGeneratedNonce : Str)
  deriving DecidableEq

namespace Call

/-- What a call returns. -/
def build (codec : Codec) (digest : Bytes → Bytes) :
    Call → Except MdlError (SessionTranscript codec)
  | openid4vp1_0 clientId nonce jwkThumbprint responseUri =>
    SessionTranscript.openid4vp1_0 codec digest clientId nonce jwkThumbprint responseUri
  | openid4vpDcapi origin nonce jwkThumbprint =>
    SessionTranscript.openid4vpDcapi codec digest origin nonce jwkThumbprint
  | openid4vpIso18013_7 clientId responseUri nonce mdocGeneratedNonce =>
    SessionTranscript.openid4vpIso18013_7 codec digest clientId responseUri nonce
      mdocGeneratedNonce

/-- The values whose encodings a call hashes. -/
def hashed : Call → List Value
  | openid4vp1_0 clientId nonce jwkThumbprint responseUri =>
    [.array [.text clientId, .text nonce, thumbprint jwkThumbprint, .text responseUri]]
  | openid4vpDcapi origin nonce jwkThumbprint =>
    [.array [.text origin, .text nonce, thumbprint jwkThumbprint]]
  | openid4vpIso18013_7 clientId responseUri _ mdocGeneratedNonce =>
    [.array [.text clientId, .text mdocGeneratedNonce],
      .array [.text responseUri, .text mdocGeneratedNonce]]

end Call

/-- Two calls found no collision: where the digests of what they hash agree, the inputs do. -/
def CollisionFree (codec : Codec) (digest : Bytes → Bytes) (c₁ c₂ : Call) : Prop :=
  ∀ v ∈ c₁.hashed, ∀ w ∈ c₂.hashed, ∀ x y, codec.toVec v = .ok x → codec.toVec w = .ok y →
    digest x = digest y → x = y

/-- What the transcripts over a codec and a hash promise. -/
structure Binding (codec : Codec) (digest : Bytes → Bytes) : Prop where
  /-- Transcripts with the same bytes come from the same call. -/
  same_call : ∀ {c₁ c₂ : Call} {t₁ t₂ : SessionTranscript codec},
    CollisionFree codec digest c₁ c₂ →
    c₁.build codec digest = .ok t₁ → c₂.build codec digest = .ok t₂ →
    t₁.asBytes = t₂.asBytes → c₁ = c₂
  /-- An adopted transcript is the bytes it was adopted from, and is serialized as these bytes. -/
  adopted : ∀ {x : Bytes} {t : SessionTranscript codec}, fromCbor codec x = .ok t →
    t.asBytes = x ∧ t.serialize codec.toVec = .ok x

/-! ## What the builders build -/

variable {codec : Codec} {digest : Bytes → Bytes}

lemma encode_eq_ok {value : Value} {error : String → MdlError} {t : SessionTranscript codec}
    (h : encode codec value error = .ok t) : t.value = value := by
  unfold encode at h
  split at h
  · cases h
    rfl
  · cases h

lemma sha256_eq_ok {value : Value} {d : Bytes} (h : sha256 codec digest value = .ok d) :
    ∃ x, codec.toVec value = .ok x ∧ d = digest x := by
  unfold sha256 at h
  cases hvalue : codec.toVec value with
  | error e => rw [hvalue] at h; cases h
  | ok x =>
    rw [hvalue] at h
    cases h
    exact ⟨x, rfl, rfl⟩

/-- The transcript around a handover. -/
def around (handover : Value) : Value := .array [.null, .null, handover]

lemma openid4vp1_0_eq_ok {clientId nonce responseUri : Str} {jwkThumbprint : Option Bytes}
    {t : SessionTranscript codec}
    (h : SessionTranscript.openid4vp1_0 codec digest clientId nonce jwkThumbprint responseUri
      = .ok t) :
    ∃ x, codec.toVec (.array [.text clientId, .text nonce, thumbprint jwkThumbprint,
        .text responseUri]) = .ok x
      ∧ t.value = around (.array [.text "OpenID4VPHandover".toList, .bytes (digest x)]) := by
  obtain ⟨d, hd, h⟩ := bind_eq_ok h
  obtain ⟨x, hx, rfl⟩ := sha256_eq_ok hd
  exact ⟨x, hx, encode_eq_ok h⟩

lemma openid4vpDcapi_eq_ok {origin nonce : Str} {jwkThumbprint : Option Bytes}
    {t : SessionTranscript codec}
    (h : SessionTranscript.openid4vpDcapi codec digest origin nonce jwkThumbprint = .ok t) :
    ∃ x, codec.toVec (.array [.text origin, .text nonce, thumbprint jwkThumbprint]) = .ok x
      ∧ t.value = around (.array [.text "OpenID4VPDCAPIHandover".toList, .bytes (digest x)]) := by
  obtain ⟨d, hd, h⟩ := bind_eq_ok h
  obtain ⟨x, hx, rfl⟩ := sha256_eq_ok hd
  exact ⟨x, hx, encode_eq_ok h⟩

lemma openid4vpIso18013_7_eq_ok {clientId responseUri nonce mdocGeneratedNonce : Str}
    {t : SessionTranscript codec}
    (h : SessionTranscript.openid4vpIso18013_7 codec digest clientId responseUri nonce
      mdocGeneratedNonce = .ok t) :
    ∃ x y, codec.toVec (.array [.text clientId, .text mdocGeneratedNonce]) = .ok x
      ∧ codec.toVec (.array [.text responseUri, .text mdocGeneratedNonce]) = .ok y
      ∧ t.value = around (.array [.bytes (digest x), .bytes (digest y), .text nonce]) := by
  obtain ⟨d, hd, h⟩ := bind_eq_ok h
  obtain ⟨e, he, h⟩ := bind_eq_ok h
  obtain ⟨x, hx, rfl⟩ := sha256_eq_ok hd
  obtain ⟨y, hy, rfl⟩ := sha256_eq_ok he
  exact ⟨x, y, hx, hy, encode_eq_ok h⟩

/-! ## Equal transcripts -/

lemma around_inj {v w : Value} (h : around v = around w) : v = w := by
  simpa only [around, Value.array.injEq, List.cons.injEq, and_true, true_and] using h

/-- The thumbprint is bound; in particular an absent one is not an empty one. -/
lemma thumbprint_inj {a b : Option Bytes} (h : thumbprint a = thumbprint b) : a = b := by
  cases a with
  | none =>
    cases b with
    | none => rfl
    | some y => cases h
  | some x =>
    cases b with
    | none => cases h
    | some y => exact congrArg some (Value.bytes.inj h)

/-- A tagged handover is determined by its tag and its digest. -/
lemma tagged_inj {a b : Str} {d e : Bytes}
    (h : Value.array [.text a, .bytes d] = .array [.text b, .bytes e]) : a = b ∧ d = e := by
  simpa only [Value.array.injEq, List.cons.injEq, Value.text.injEq, Value.bytes.injEq, and_true]
    using h

lemma hashed_inj (hcodec : codec.Injective) {c₁ c₂ : Call}
    (hfree : CollisionFree codec digest c₁ c₂) {v w : Value} (hv : v ∈ c₁.hashed)
    (hw : w ∈ c₂.hashed) {x y : Bytes} (hx : codec.toVec v = .ok x) (hy : codec.toVec w = .ok y)
    (h : digest x = digest y) : v = w := by
  have hxy : x = y := hfree v hv w hw x y hx hy h
  exact hcodec hx (hxy ▸ hy)

/-- Transcripts with the same value come from the same call. -/
lemma call_eq_of_value_eq (hcodec : codec.Injective) {c₁ c₂ : Call}
    {t₁ t₂ : SessionTranscript codec} (hfree : CollisionFree codec digest c₁ c₂)
    (h₁ : c₁.build codec digest = .ok t₁) (h₂ : c₂.build codec digest = .ok t₂)
    (h : t₁.value = t₂.value) : c₁ = c₂ := by
  have hinj := @hashed_inj codec digest hcodec c₁ c₂ hfree
  cases c₁ with
  | openid4vp1_0 clientId nonce jwkThumbprint responseUri =>
    obtain ⟨x, hx, hvalue₁⟩ := openid4vp1_0_eq_ok h₁
    cases c₂ with
    | openid4vp1_0 clientId' nonce' jwkThumbprint' responseUri' =>
      obtain ⟨y, hy, hvalue₂⟩ := openid4vp1_0_eq_ok h₂
      rw [hvalue₁, hvalue₂] at h
      have hinfo := hinj List.mem_cons_self List.mem_cons_self hx hy (tagged_inj (around_inj h)).2
      simp only [Value.array.injEq, List.cons.injEq, Value.text.injEq, and_true] at hinfo
      obtain ⟨hclient, hnonce, hthumbprint, huri⟩ := hinfo
      rw [hclient, hnonce, thumbprint_inj hthumbprint, huri]
    | openid4vpDcapi origin nonce' jwkThumbprint' =>
      obtain ⟨y, hy, hvalue₂⟩ := openid4vpDcapi_eq_ok h₂
      rw [hvalue₁, hvalue₂] at h
      exact absurd (tagged_inj (around_inj h)).1 (by decide)
    | openid4vpIso18013_7 clientId' responseUri' nonce' mdocGeneratedNonce' =>
      obtain ⟨y, z, hy, hz, hvalue₂⟩ := openid4vpIso18013_7_eq_ok h₂
      rw [hvalue₁, hvalue₂] at h
      cases around_inj h
  | openid4vpDcapi origin nonce jwkThumbprint =>
    obtain ⟨x, hx, hvalue₁⟩ := openid4vpDcapi_eq_ok h₁
    cases c₂ with
    | openid4vp1_0 clientId' nonce' jwkThumbprint' responseUri' =>
      obtain ⟨y, hy, hvalue₂⟩ := openid4vp1_0_eq_ok h₂
      rw [hvalue₁, hvalue₂] at h
      exact absurd (tagged_inj (around_inj h)).1 (by decide)
    | openid4vpDcapi origin' nonce' jwkThumbprint' =>
      obtain ⟨y, hy, hvalue₂⟩ := openid4vpDcapi_eq_ok h₂
      rw [hvalue₁, hvalue₂] at h
      have hinfo := hinj List.mem_cons_self List.mem_cons_self hx hy (tagged_inj (around_inj h)).2
      simp only [Value.array.injEq, List.cons.injEq, Value.text.injEq, and_true] at hinfo
      obtain ⟨horigin, hnonce, hthumbprint⟩ := hinfo
      rw [horigin, hnonce, thumbprint_inj hthumbprint]
    | openid4vpIso18013_7 clientId' responseUri' nonce' mdocGeneratedNonce' =>
      obtain ⟨y, z, hy, hz, hvalue₂⟩ := openid4vpIso18013_7_eq_ok h₂
      rw [hvalue₁, hvalue₂] at h
      cases around_inj h
  | openid4vpIso18013_7 clientId responseUri nonce mdocGeneratedNonce =>
    obtain ⟨x, x', hx, hx', hvalue₁⟩ := openid4vpIso18013_7_eq_ok h₁
    cases c₂ with
    | openid4vp1_0 clientId' nonce' jwkThumbprint' responseUri' =>
      obtain ⟨y, hy, hvalue₂⟩ := openid4vp1_0_eq_ok h₂
      rw [hvalue₁, hvalue₂] at h
      cases around_inj h
    | openid4vpDcapi origin' nonce' jwkThumbprint' =>
      obtain ⟨y, hy, hvalue₂⟩ := openid4vpDcapi_eq_ok h₂
      rw [hvalue₁, hvalue₂] at h
      cases around_inj h
    | openid4vpIso18013_7 clientId' responseUri' nonce' mdocGeneratedNonce' =>
      obtain ⟨y, y', hy, hy', hvalue₂⟩ := openid4vpIso18013_7_eq_ok h₂
      rw [hvalue₁, hvalue₂] at h
      have hhandover := around_inj h
      simp only [Value.array.injEq, List.cons.injEq, Value.bytes.injEq, Value.text.injEq,
        and_true] at hhandover
      obtain ⟨hfirst, hsecond, hnonce⟩ := hhandover
      have hclient := hinj List.mem_cons_self List.mem_cons_self hx hy hfirst
      have huri := hinj (List.mem_cons_of_mem _ List.mem_cons_self)
        (List.mem_cons_of_mem _ List.mem_cons_self) hx' hy' hsecond
      simp only [Value.array.injEq, List.cons.injEq, Value.text.injEq, and_true] at hclient huri
      rw [hclient.1, hclient.2, huri.1, hnonce]

/-! ## Adopted transcripts -/

lemma fromCbor_eq_ok {x : Bytes} {t : SessionTranscript codec} (h : fromCbor codec x = .ok t) :
    t.bytes = x := by
  obtain ⟨value, -, h⟩ := bind_eq_ok h
  obtain ⟨u, -, h⟩ := bind_eq_ok h
  split at h
  · cases h
  · next hbytes =>
    cases h
    exact not_not.mp hbytes

/-- The bytes of a transcript are the encoding of its value, however it came about. -/
lemma toVec_asValue (t : SessionTranscript codec) : codec.toVec t.asValue = .ok t.asBytes :=
  t.encodes

lemma asValue_eq_of_asBytes_eq (hcodec : codec.Injective) {t₁ t₂ : SessionTranscript codec}
    (h : t₁.asBytes = t₂.asBytes) : t₁.asValue = t₂.asValue := by
  have hencodes := toVec_asValue t₂
  rw [← h] at hencodes
  exact hcodec (toVec_asValue t₁) hencodes

/-- A transcript that is written and read again is the same one. -/
lemma deserialize_serialize {ε : Type} (t : SessionTranscript codec) (custom : String → ε) :
    deserialize codec (t.serialize Except.ok) custom = .ok t := by
  obtain ⟨value, bytes, hencodes⟩ := t
  unfold serialize deserialize
  dsimp only
  split
  · next found hfound =>
    obtain rfl := Except.ok.inj (hencodes.symm.trans hfound)
    rfl
  · next e herror =>
    rw [hencodes] at herror
    cases herror

/-- **Session transcripts bind the session.** -/
theorem transcriptBinding (hcodec : codec.Injective) : Binding codec digest where
  same_call := by
    intro c₁ c₂ t₁ t₂ hfree h₁ h₂ hbytes
    exact call_eq_of_value_eq hcodec hfree h₁ h₂ (asValue_eq_of_asBytes_eq hcodec hbytes)
  adopted := by
    intro x t h
    have hbytes := fromCbor_eq_ok h
    refine ⟨hbytes, ?_⟩
    show codec.toVec t.value = .ok x
    rw [t.encodes, hbytes]

/-! ## The worked example of the Digital Credentials API

OpenID4VP 1.0 publishes the transcript of one call.  Without the thumbprint the same call has
another one. -/

/-- The codec of deterministic CBOR. -/
def deterministic : Codec where
  fromSlice bytes :=
    match Cbor.decode bytes.length bytes with
    | some (value, []) => .ok value
    | _ => .error "not deterministic CBOR"
  toVec value :=
    match Cbor.encode value with
    | some bytes => .ok bytes
    | none => .error "not encodable"

lemma deterministic_toVec {value : Value} {x : Bytes} (h : deterministic.toVec value = .ok x) :
    Cbor.encode value = some x := by
  unfold deterministic at h
  dsimp only at h
  split at h
  · next hencode =>
    cases h
    exact hencode
  · cases h

lemma deterministic_injective : deterministic.Injective := fun hv hw =>
  Cbor.encode_inj (deterministic_toVec hv) (deterministic_toVec hw)

/-- The call of the worked example, with the thumbprint left open. -/
def workedCall (jwkThumbprint : Option Bytes) : Call :=
  .openid4vpDcapi "https://example.com".toList
    "exc7gBkxjx1rdc9udRrveKvSsJIq80avlXeLHhGwqtA".toList jwkThumbprint

/-- The thumbprint of the worked example. -/
def workedThumbprint : Bytes :=
  toBE 32 0x4283ec927ae0f208daaa2d026a814f2b22dca52cf85ffa8f3f8626c6bd669047

/-- SHA-256 of what the call hashes, with the thumbprint and without it. -/
def workedDigest (x : Bytes) : Bytes :=
  if x.length = 100 then toBE 32 0xfbece366f4212f9762c74cfdbf83b8c69e371d5d68cea09cb4c48ca6daab761a
  else toBE 32 0x3563b629e28bf0a736c6ba6faacb60a9cd3074e51416a04565031d8690638c43

/-- The transcript of the worked example. -/
def workedTranscript : Bytes :=
  [0x83, 0xf6, 0xf6, 0x82, 0x76] ++ Utf8.encode "OpenID4VPDCAPIHandover".toList ++ [0x58, 0x20]
    ++ toBE 32 0xfbece366f4212f9762c74cfdbf83b8c69e371d5d68cea09cb4c48ca6daab761a

lemma exists_of_asBytes {c : Call} {x : Bytes}
    (h : ((c.build codec digest).toOption.map asBytes) = some x) :
    ∃ t, c.build codec digest = .ok t ∧ t.asBytes = x := by
  cases hbuild : c.build codec digest with
  | error e =>
    rw [hbuild] at h
    cases h
  | ok t =>
    rw [hbuild] at h
    exact ⟨t, rfl, Option.some.inj h⟩

lemma digest_ne {v w : Value} {x y : Bytes} (hx : codec.toVec v = .ok x)
    (hy : codec.toVec w = .ok y)
    (h : (codec.toVec v).toOption.map digest ≠ (codec.toVec w).toOption.map digest) :
    digest x ≠ digest y := by
  rw [hx, hy] at h
  exact fun hsame => h (congrArg some hsame)

lemma workedCall_collisionFree : CollisionFree deterministic workedDigest
    (workedCall (some workedThumbprint)) (workedCall none) := by
  intro v hv w hw x y hx hy h
  rw [List.mem_singleton.mp hv] at hx
  rw [List.mem_singleton.mp hw] at hy
  exact absurd h (digest_ne hx hy (by decide))

theorem transcriptBinding_worked :
    ∃ t₁ t₂, (workedCall (some workedThumbprint)).build deterministic workedDigest = .ok t₁
      ∧ (workedCall none).build deterministic workedDigest = .ok t₂
      ∧ t₁.asBytes = workedTranscript ∧ t₁.asBytes ≠ t₂.asBytes := by
  have hworked : (((workedCall (some workedThumbprint)).build deterministic
      workedDigest).toOption.map asBytes) = some workedTranscript := by decide +kernel
  have habsent : (((workedCall none).build deterministic workedDigest).toOption.map asBytes).isSome
      = true := by decide +kernel
  obtain ⟨t₁, h₁, hbytes⟩ := exists_of_asBytes hworked
  obtain ⟨x, hx⟩ := Option.isSome_iff_exists.mp habsent
  obtain ⟨t₂, h₂, -⟩ := exists_of_asBytes hx
  refine ⟨t₁, t₂, h₁, h₂, hbytes, ?_⟩
  intro hsame
  exact absurd ((transcriptBinding deterministic_injective).same_call workedCall_collisionFree
    h₁ h₂ hsame) (by decide)

end MdlVerify
