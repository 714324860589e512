import IdentityCrates.Dmrtd.Auth.Active
import IdentityCrates.Dmrtd.Properties.PssVerification

/-!
# Recovering the message of an RSA answer

An RSA answer to the challenge of Active Authentication is an ISO/IEC 9796-2 signature: the block
that the public operation recovers holds a header, a message of the chip's choice, a digest and a
trailer, without a length between them.  `verify_rsa_iso9796` cuts the block from both ends, and by
the length of the digest that the trailer names.

A block has at most one reading as such a signature (`parts_unique`), since its last byte fixes the
trailer, the trailer the hash and the hash the length of the digest; and the code finds it if there
is one, however short the block is (`checkBlock_iff`).  The public operation recovers what it should
(`RsaPublicKey.rawPublic_eq_some`), so the verdict is on the block `s^e mod n` alone.

The message is read from the block and not from the challenge.  An answer that is accepted for two
challenges therefore gives away a collision of its hash.
-/

namespace Dmrtd

open Octets Rust

namespace Active

/-! ## Blocks -/

/-- The trailer names the hash: by itself, or by an identifier in front of it. -/
inductive Trailer : HashAlgo → Bytes → Prop
  | implicit : Trailer .sha1 [trailerImplicit]
  | explicit {id : UInt8} {hash : HashAlgo} (h : HashAlgo.fromIso9796Id id = some hash) :
    Trailer hash [id, trailerExplicit]

/-- The block is header, message, digest and trailer, the digest as long as its hash makes it. -/
structure Parts (block : Bytes) (hash : HashAlgo) (m1 h : Bytes) : Prop where
  length_h : h.length = hash.digestLen
  layout : ∃ trailer, Trailer hash trailer ∧
    block = headerPartialRecovery :: (m1 ++ h ++ trailer)

/-- The block is a signature of the message it holds and the challenge. -/
def Answers (H : Hashes) (challenge block : Bytes) (hash : HashAlgo) (m1 : Bytes) : Prop :=
  Parts block hash m1 (H.digest hash (m1 ++ challenge))

/-! ## Cutting a block -/

lemma splitLast_append (body : Bytes) (last : UInt8) :
    splitLast (body ++ [last]) = some (body, last) := by
  rw [splitLast, List.getLast?_concat, List.dropLast_concat]
  rfl

lemma splitLast_eq_some {bytes body : Bytes} {last : UInt8}
    (h : splitLast bytes = some (body, last)) : bytes = body ++ [last] := by
  obtain ⟨last', hlast, heq⟩ := Option.map_eq_some_iff.mp h
  obtain ⟨rfl, rfl⟩ := Prod.mk.inj heq
  exact (List.dropLast_append_getLast? _ hlast).symm

/-- A trailer of two bytes is read as the identifier of its hash. -/
lemma trailerHash_explicit (body : Bytes) (id : UInt8) :
    trailerHash (body ++ [id, trailerExplicit]) =
      (Outcome.ofOption (.unsupportedHash id) (HashAlgo.fromIso9796Id id) >>= fun hash =>
        .ok (hash, body)) := by
  have hsplit : body ++ [id, trailerExplicit] = (body ++ [id]) ++ [trailerExplicit] := by
    rw [List.append_assoc]
    rfl
  have hne : trailerExplicit ≠ trailerImplicit := by decide
  rw [hsplit, trailerHash, splitLast_append, Outcome.ofOption_some, Outcome.ok_bind]
  dsimp only
  rw [if_neg hne, if_pos rfl, splitLast_append, Outcome.ofOption_some, Outcome.ok_bind]

/-- The trailer that the code takes off is the one the block has. -/
lemma trailerHash_eq_ok {afterHeader body : Bytes} {hash : HashAlgo} :
    trailerHash afterHeader = .ok (hash, body) ↔
      ∃ trailer, Trailer hash trailer ∧ afterHeader = body ++ trailer := by
  constructor
  · intro h
    unfold trailerHash at h
    obtain ⟨⟨beforeLast, last⟩, hlast, hcut⟩ := Outcome.bind_eq_ok.mp h
    obtain rfl := splitLast_eq_some (Outcome.ofOption_eq_ok.mp hlast)
    dsimp only at hcut
    split at hcut
    · rename_i himplicit
      obtain ⟨rfl, rfl⟩ := Prod.mk.inj (Outcome.ok.inj hcut)
      exact ⟨_, .implicit, by rw [himplicit]⟩
    · split at hcut
      · rename_i hexplicit
        obtain ⟨⟨rest, id⟩, hid, hnamed⟩ := Outcome.bind_eq_ok.mp hcut
        obtain rfl := splitLast_eq_some (Outcome.ofOption_eq_ok.mp hid)
        obtain ⟨hash', hhash, hnamed⟩ := Outcome.bind_eq_ok.mp hnamed
        obtain ⟨rfl, rfl⟩ := Prod.mk.inj (Outcome.ok.inj hnamed)
        refine ⟨_, .explicit (Outcome.ofOption_eq_ok.mp hhash), ?_⟩
        rw [hexplicit, List.append_assoc]
        rfl
      · cases hcut
  · rintro ⟨trailer, htrailer, rfl⟩
    cases htrailer with
    | implicit =>
      rw [trailerHash, splitLast_append]
      rfl
    | explicit hhash =>
      rw [trailerHash_explicit, hhash]
      rfl

lemma trailerHash_ne_panic (afterHeader : Bytes) : trailerHash afterHeader ≠ .panic := by
  unfold trailerHash
  refine Outcome.bind_ne_panic (Outcome.ofOption_ne_panic _ _) fun _ _ => ?_
  dsimp only
  split
  · simp
  · split
    · refine Outcome.bind_ne_panic (Outcome.ofOption_ne_panic _ _) fun _ _ => ?_
      exact Outcome.bind_ne_panic (Outcome.ofOption_ne_panic _ _) fun _ _ => by simp
    · simp

/-- The last byte fixes the trailer. -/
lemma trailer_unique {body body' trailer trailer' : Bytes} {hash hash' : HashAlgo}
    (h : Trailer hash trailer) (h' : Trailer hash' trailer')
    (heq : body ++ trailer = body' ++ trailer') : hash = hash' ∧ body = body' := by
  have hparsed : trailerHash (body ++ trailer) = .ok (hash, body) :=
    trailerHash_eq_ok.mpr ⟨trailer, h, rfl⟩
  have hparsed' : trailerHash (body ++ trailer) = .ok (hash', body') :=
    trailerHash_eq_ok.mpr ⟨trailer', h', heq⟩
  exact Prod.mk.inj (Outcome.ok.inj (hparsed.symm.trans hparsed'))

/-- A block has one reading. -/
lemma parts_unique {block : Bytes} {hash hash' : HashAlgo} {m1 m1' h h' : Bytes}
    (hparts : Parts block hash m1 h) (hparts' : Parts block hash' m1' h') :
    hash = hash' ∧ m1 = m1' ∧ h = h' := by
  obtain ⟨trailer, htrailer, rfl⟩ := hparts.layout
  obtain ⟨trailer', htrailer', heq⟩ := hparts'.layout
  obtain ⟨rfl, hbody⟩ := trailer_unique htrailer htrailer' (List.cons.inj heq).2
  have hlen : h.length = h'.length := hparts.length_h.trans hparts'.length_h.symm
  obtain ⟨hm1, hh⟩ := List.append_inj' hbody hlen
  exact ⟨rfl, hm1, hh⟩

/-! ## The verdict -/

section Suite

variable (S : SignatureSuite)

/-- The cut before the digest lies within the block. -/
lemma checkDigest_ne_panic (hash : HashAlgo) (body challenge : Bytes) :
    checkDigest S hash body challenge ≠ .panic := by
  refine Outcome.bind_ne_panic (Outcome.ofOption_ne_panic _ _) fun split hsplit => ?_
  rw [Outcome.ofOption_eq_ok] at hsplit
  split at hsplit
  · obtain rfl := Option.some.inj hsplit
    rw [splitAt_eq (Nat.sub_le _ _), Outcome.ok_bind]
    dsimp only
    split <;> simp
  · cases hsplit

lemma checkBlock_ne_panic (block challenge : Bytes) : checkBlock S block challenge ≠ .panic := by
  cases block with
  | nil => exact nofun
  | cons header afterHeader =>
    unfold checkBlock
    dsimp only
    split
    · simp
    · exact Outcome.bind_ne_panic (trailerHash_ne_panic afterHeader) fun _ _ =>
        checkDigest_ne_panic S _ _ challenge

lemma verifyRsaIso9796_ne_panic (spkiKeyBytes challenge signature : Bytes) :
    verifyRsaIso9796 S spkiKeyBytes challenge signature ≠ .panic :=
  Outcome.bind_ne_panic (Outcome.ofOption_ne_panic _ _) fun _ _ =>
    Outcome.bind_ne_panic (Outcome.ofOption_ne_panic _ _) fun block _ =>
      checkBlock_ne_panic S block challenge

end Suite

variable {H : Hashes} {C : Ecdsa.CurveCrates} {P : P256Crate}

/-- The body is a message and the digest of it and the challenge. -/
lemma checkDigest_eq_ok {hash : HashAlgo} {body challenge : Bytes} :
    checkDigest (crateSuite H C P) hash body challenge = .ok () ↔
      ∃ m1, body = m1 ++ H.digest hash (m1 ++ challenge) := by
  unfold checkDigest
  constructor
  · intro h
    obtain ⟨split, hsplit, hcut⟩ := Outcome.bind_eq_ok.mp h
    rw [Outcome.ofOption_eq_ok] at hsplit
    split at hsplit
    · obtain rfl := Option.some.inj hsplit
      rw [splitAt_eq (Nat.sub_le _ _), Outcome.ok_bind] at hcut
      dsimp only at hcut
      split at hcut
      · rename_i hdigest
        refine ⟨body.take (body.length - hash.digestLen), ?_⟩
        rw [show H.digest hash _ = _ from hdigest, List.take_append_drop]
      · cases hcut
    · cases hsplit
  · rintro ⟨m1, rfl⟩
    have hlen := H.length_digest hash (m1 ++ challenge)
    have hcut : (m1 ++ H.digest hash (m1 ++ challenge)).length - hash.digestLen = m1.length := by
      rw [List.length_append, hlen, Nat.add_sub_cancel]
    rw [if_pos (by rw [List.length_append, hlen]; omega), hcut, Outcome.ofOption_some,
      Outcome.ok_bind, splitAt_eq (by simp), Outcome.ok_bind, List.take_left, List.drop_left]
    exact if_pos rfl

/-- A block is accepted exactly when it has a reading that answers the challenge. -/
lemma checkBlock_eq_ok {block challenge : Bytes} :
    checkBlock (crateSuite H C P) block challenge = .ok () ↔
      ∃ hash m1, Answers H challenge block hash m1 := by
  cases block with
  | nil =>
    refine iff_of_false nofun ?_
    rintro ⟨hash, m1, -, trailer, -, hblock⟩
    cases hblock
  | cons header afterHeader =>
    unfold checkBlock
    dsimp only
    constructor
    · intro h
      split at h
      · cases h
      · rename_i hheader
        obtain ⟨⟨hash, body⟩, hparsed, hdigest⟩ := Outcome.bind_eq_ok.mp h
        obtain ⟨trailer, htrailer, rfl⟩ := trailerHash_eq_ok.mp hparsed
        obtain ⟨m1, hbody⟩ := checkDigest_eq_ok.mp hdigest
        refine ⟨hash, m1, H.length_digest _ _, trailer, htrailer, ?_⟩
        rw [not_not.mp hheader, ← hbody]
    · rintro ⟨hash, m1, -, trailer, htrailer, hblock⟩
      obtain ⟨rfl, rfl⟩ := List.cons.inj hblock
      rw [if_neg (not_not_intro rfl), trailerHash_eq_ok.mpr ⟨trailer, htrailer, rfl⟩,
        Outcome.ok_bind]
      exact checkDigest_eq_ok.mpr ⟨m1, rfl⟩

/-- The signature recovers that block under that key. -/
structure Recovers (key : RsaPublicKey) (signature block : Bytes) : Prop where
  length_eq : signature.length = key.size
  in_range : ofBE signature < key.n
  block_eq : block = toBE key.size (ofBE signature ^ key.e % key.n)

lemma rawPublic_iff_recovers {key : RsaPublicKey} {signature block : Bytes} :
    key.rawPublic signature = some block ↔ Recovers key signature block := by
  rw [RsaPublicKey.rawPublic_eq_some]
  exact ⟨fun ⟨h₁, h₂, h₃⟩ => ⟨h₁, h₂, h₃⟩, fun ⟨h₁, h₂, h₃⟩ => ⟨h₁, h₂, h₃⟩⟩

lemma verifyRsaIso9796_eq_ok {spkiKeyBytes challenge signature : Bytes} :
    verifyRsaIso9796 (crateSuite H C P) spkiKeyBytes challenge signature = .ok () ↔
      ∃ key block hash m1, RsaPublicKey.fromPkcs1Der spkiKeyBytes = some key ∧
        Recovers key signature block ∧ Answers H challenge block hash m1 := by
  unfold verifyRsaIso9796
  simp only [Outcome.bind_eq_ok, Outcome.ofOption_eq_ok, checkBlock_eq_ok]
  constructor
  · rintro ⟨key, hkey, block, hblock, hash, m1, hanswers⟩
    exact ⟨key, block, hash, m1, hkey, rawPublic_iff_recovers.mp hblock, hanswers⟩
  · rintro ⟨key, block, hash, m1, hkey, hblock, hanswers⟩
    exact ⟨key, hkey, block, rawPublic_iff_recovers.mpr hblock, hash, m1, hanswers⟩

/-- **Message recovery.**  An answer is accepted exactly when the block it recovers is header,
message, digest of message and challenge, and the trailer of a known hash; no answer makes the check
panic; and an answer to two challenges shows two messages with one digest. -/
theorem verifyRsaIso9796_recovers (H : Hashes) (C : Ecdsa.CurveCrates) (P : P256Crate) :
    (∀ spkiKeyBytes challenge signature,
      verifyRsaIso9796 (crateSuite H C P) spkiKeyBytes challenge signature = .ok () ↔
        ∃ key block hash m1, RsaPublicKey.fromPkcs1Der spkiKeyBytes = some key ∧
          Recovers key signature block ∧ Answers H challenge block hash m1) ∧
    (∀ spkiKeyBytes challenge signature,
      verifyRsaIso9796 (crateSuite H C P) spkiKeyBytes challenge signature ≠ .panic) ∧
    ∀ spkiKeyBytes challenge challenge' signature, challenge ≠ challenge' →
      verifyRsaIso9796 (crateSuite H C P) spkiKeyBytes challenge signature = .ok () →
      verifyRsaIso9796 (crateSuite H C P) spkiKeyBytes challenge' signature = .ok () →
      ∃ hash m1, m1 ++ challenge ≠ m1 ++ challenge' ∧
        H.digest hash (m1 ++ challenge) = H.digest hash (m1 ++ challenge') := by
  refine ⟨fun _ _ _ => verifyRsaIso9796_eq_ok, verifyRsaIso9796_ne_panic _, ?_⟩
  intro spkiKeyBytes challenge challenge' signature hne haccepted haccepted'
  obtain ⟨key, block, hash, m1, hkey, hblock, hanswers⟩ := verifyRsaIso9796_eq_ok.mp haccepted
  obtain ⟨key', block', hash', m1', hkey', hblock', hanswers'⟩ :=
    verifyRsaIso9796_eq_ok.mp haccepted'
  -- one key and one signature recover one block, and that has one reading
  obtain rfl := Option.some.inj (hkey.symm.trans hkey')
  obtain rfl := hblock.block_eq.trans hblock'.block_eq.symm
  obtain ⟨rfl, rfl, hdigest⟩ := parts_unique hanswers hanswers'
  exact ⟨hash, m1, fun heq => hne (List.append_cancel_left heq), hdigest⟩

/-- The key of a sample answer: 184 bits, and the exponent three. -/
def sampleKeyDer : Bytes :=
  toBE 31 0x301d0218008e955dca9981a739a69c13397514cf57d47169826ae67c020103

/-- The challenge of the sample. -/
def sampleChallenge : Bytes := [0x01, 0x02, 0x03, 0x04, 0x05, 0x06, 0x07, 0x08]

/-- The sample answer. -/
def sampleAnswer : Bytes := toBE 23 0x27f0c2935d3492ee

/-- SHA-1, where the sample needs it. -/
def sampleHashes : Hashes := RsaPublicKey.recordedHashes
  [((.sha1, [0x4d] ++ sampleChallenge), 0x4f5156cb70ec5292ad54aa225c47702b120e0d26)]

/-- No curves. -/
def sampleCurves : Ecdsa.CurveCrates :=
  ⟨fun _ _ _ => false, fun _ _ _ => false, fun _ _ _ => false, fun _ _ _ => false,
    fun _ _ _ => false⟩

/-- No key on P-256. -/
def sampleP256 : P256Crate := ⟨Empty, fun _ => none, Empty, fun _ => none, fun _ _ _ => false⟩

/-- An answer with a message of one byte and a SHA-1 digest. -/
theorem verifyRsaIso9796_sample :
    verifyRsaIso9796 (crateSuite sampleHashes sampleCurves sampleP256) sampleKeyDer sampleChallenge
      sampleAnswer = .ok () := by
  have hread : (RsaPublicKey.fromPkcs1Der sampleKeyDer).map (fun key => (key.n, key.e)) =
      some (0x8e955dca9981a739a69c13397514cf57d47169826ae67c, 3) := by
    decide +kernel
  obtain ⟨key, hkey, hparams⟩ := Option.map_eq_some_iff.mp hread
  obtain ⟨hn, he⟩ := Prod.mk.inj hparams
  have hsize : key.size = 23 := by
    rw [RsaPublicKey.size, hn]
    decide +kernel
  refine ((verifyRsaIso9796_recovers sampleHashes sampleCurves sampleP256).1 _ _ _).mpr
    ⟨key, _, .sha1, [0x4d], hkey, ⟨?_, ?_, rfl⟩, rfl, _, .implicit, ?_⟩
  · rw [hsize]
    rfl
  · rw [hn]
    decide +kernel
  · rw [hsize, hn, he]
    decide +kernel

end Active

end Dmrtd
