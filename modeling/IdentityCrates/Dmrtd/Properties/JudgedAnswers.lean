import IdentityCrates.Dmrtd.Properties.MessageRecovery

/-!
# Answers that are judged

The seven errors of `active::verify` are of two kinds.  `Failed` and `MalformedSignature` say that
the answer was looked at, under a key and a hash that the crate has, and is not a signature of the
challenge.  The others say that nothing was looked at: the key could not be loaded, its curve or
the hash of the answer is not implemented, or the challenge was not eight bytes long.

Which of the two it is can be told without the verdict (`judged_verify_iff`): from the octets of the
key, and for RSA from the last two bytes of the block that the answer recovers.
-/

namespace Dmrtd

open Octets Rust

namespace Active

/-- The answer was accepted, or found wrong. -/
def Judged (o : Outcome ActiveAuthError Unit) : Prop :=
  o = .ok () ∨ o = .err .failed ∨ o = .err .malformedSignature

variable (S : SignatureSuite)

/-- The octets are a key that the crate can use: an RSA key, or an uncompressed point of P-256. -/
def Usable (key : AAPublicKey) : Prop :=
  match key.keyType with
  | .rsa => (S.fromPkcs1Der key.subPubKeyBytes).isSome
  | .ecc => key.subPubKeyBytes.length = 65 ∧ key.subPubKeyBytes.head? = some 0x04 ∧
      (S.p256FromSec1 key.subPubKeyBytes).isSome

/-- A block that is marked as an answer, and whose trailer names a hash that the crate does not
know. -/
def NamesUnknownHash (block : Bytes) : Prop :=
  ∃ middle id, block = headerPartialRecovery :: (middle ++ [id, trailerExplicit]) ∧
    HashAlgo.fromIso9796Id id = none

/-- The crate has what it takes to judge the answer. -/
structure Checkable (key : AAPublicKey) (response : Bytes) : Prop where
  usable : Usable S key
  hash : key.keyType = .rsa → ∀ rsa block, S.fromPkcs1Der key.subPubKeyBytes = some rsa →
    S.rawPublic rsa response = some block → ¬ NamesUnknownHash block

/-! ## Blocks -/

lemma judged_of_malformed {x : Outcome ActiveAuthError Unit} (h : x = .err .malformedSignature) :
    Judged x :=
  Or.inr (Or.inr h)

lemma judged_ite {p : Prop} [Decidable p] :
    Judged (if p then .ok () else .err .failed) := by
  split
  · exact Or.inl rfl
  · exact Or.inr (Or.inl rfl)

/-- With a hash that is known the digest is compared, unless the block has no room for it. -/
lemma judged_checkDigest (hash : HashAlgo) (body challenge : Bytes) :
    Judged (checkDigest S hash body challenge) := by
  unfold checkDigest
  by_cases hroom : hash.digestLen ≤ body.length
  · rw [if_pos hroom, Outcome.ofOption_some, Outcome.ok_bind, splitAt_eq (Nat.sub_le _ _),
      Outcome.ok_bind]
    exact judged_ite
  · rw [if_neg hroom]
    exact judged_of_malformed rfl

/-- How a trailer is read: it names a hash, is none, or names a hash that is not known. -/
lemma trailerHash_cases (afterHeader : Bytes) :
    (∃ parsed, trailerHash afterHeader = .ok parsed) ∨
    trailerHash afterHeader = .err .failed ∨
    trailerHash afterHeader = .err .malformedSignature ∨
    ∃ middle id, afterHeader = middle ++ [id, trailerExplicit] ∧
      HashAlgo.fromIso9796Id id = none := by
  unfold trailerHash
  cases hlast : splitLast afterHeader with
  | none => exact Or.inr (Or.inr (Or.inl rfl))
  | some cut =>
    obtain ⟨beforeLast, last⟩ := cut
    obtain rfl := splitLast_eq_some hlast
    rw [Outcome.ofOption_some, Outcome.ok_bind]
    dsimp only
    split
    · exact Or.inl ⟨_, rfl⟩
    · split
      · rename_i hexplicit
        obtain rfl := hexplicit
        cases hid : splitLast beforeLast with
        | none => exact Or.inr (Or.inr (Or.inl rfl))
        | some cut =>
          obtain ⟨rest, id⟩ := cut
          obtain rfl := splitLast_eq_some hid
          rw [Outcome.ofOption_some, Outcome.ok_bind]
          dsimp only
          cases hhash : HashAlgo.fromIso9796Id id with
          | none => exact Or.inr (Or.inr (Or.inr ⟨rest, id, List.append_assoc _ _ _, hhash⟩))
          | some hash => exact Or.inl ⟨_, rfl⟩
      · exact Or.inr (Or.inl rfl)

/-- A block is judged unless it names a hash that the crate does not know. -/
lemma judged_checkBlock_iff {block challenge : Bytes} :
    Judged (checkBlock S block challenge) ↔ ¬ NamesUnknownHash block := by
  constructor
  · rintro hjudged ⟨middle, id, rfl, hunknown⟩
    have herr : checkBlock S (headerPartialRecovery :: (middle ++ [id, trailerExplicit]))
        challenge = .err (.unsupportedHash id) := by
      unfold checkBlock
      dsimp only
      rw [if_neg (not_not_intro rfl), trailerHash_explicit, hunknown]
      rfl
    rw [herr] at hjudged
    rcases hjudged with h | h | h <;> cases h
  · intro hknown
    cases block with
    | nil => exact judged_of_malformed rfl
    | cons header afterHeader =>
      unfold checkBlock
      dsimp only
      split
      · exact Or.inr (Or.inl rfl)
      · rename_i hheader
        obtain rfl := not_not.mp hheader
        rcases trailerHash_cases afterHeader with ⟨⟨hash, body⟩, hok⟩ | hfailed | hmalformed |
          ⟨middle, id, rfl, hunknown⟩
        · rw [hok, Outcome.ok_bind]
          exact judged_checkDigest S hash body challenge
        · rw [hfailed, Outcome.err_bind]
          exact Or.inr (Or.inl rfl)
        · rw [hmalformed, Outcome.err_bind]
          exact judged_of_malformed rfl
        · exact absurd ⟨middle, id, rfl, hunknown⟩ hknown

/-! ## The verdict -/

variable {S} {key : AAPublicKey} {challenge response : Bytes}

lemma judged_verifyRsa_iff {spkiKeyBytes : Bytes} :
    Judged (verifyRsaIso9796 S spkiKeyBytes challenge response) ↔
      (S.fromPkcs1Der spkiKeyBytes).isSome ∧ ∀ rsa block, S.fromPkcs1Der spkiKeyBytes = some rsa →
        S.rawPublic rsa response = some block → ¬ NamesUnknownHash block := by
  unfold verifyRsaIso9796
  cases hkey : S.fromPkcs1Der spkiKeyBytes with
  | none =>
    refine iff_of_false ?_ fun h => Bool.false_ne_true h.1
    rintro (h | h | h) <;> cases h
  | some rsa =>
    rw [Outcome.ofOption_some, Outcome.ok_bind]
    cases hblock : S.rawPublic rsa response with
    | none =>
      refine iff_of_true (judged_of_malformed rfl) ⟨rfl, fun rsa' block hrsa hrecovered => ?_⟩
      obtain rfl := Option.some.inj hrsa
      rw [hblock] at hrecovered
      cases hrecovered
    | some block =>
      rw [Outcome.ofOption_some, Outcome.ok_bind, judged_checkBlock_iff]
      constructor
      · intro hknown
        refine ⟨rfl, fun rsa' block' hrsa hrecovered => ?_⟩
        obtain rfl := Option.some.inj hrsa
        obtain rfl := Option.some.inj (hblock.symm.trans hrecovered)
        exact hknown
      · exact fun h => h.2 rsa block rfl hblock

lemma judged_verifyEcdsa_iff {spkiKeyBytes : Bytes} :
    Judged (verifyEcdsa S spkiKeyBytes challenge response) ↔
      spkiKeyBytes.length = 65 ∧ spkiKeyBytes.head? = some 0x04 ∧
        (S.p256FromSec1 spkiKeyBytes).isSome := by
  unfold verifyEcdsa
  by_cases hshape : spkiKeyBytes.length ≠ 65 ∨ spkiKeyBytes.head? ≠ some 0x04
  · rw [if_pos hshape]
    refine iff_of_false ?_ fun h => ?_
    · rintro (h | h | h) <;> cases h
    · exact hshape.elim (absurd h.1) (absurd h.2.1)
  · rw [if_neg hshape]
    obtain ⟨hlen, hhead⟩ := not_or.mp hshape
    cases hkey : S.p256FromSec1 spkiKeyBytes with
    | none =>
      refine iff_of_false ?_ fun h => Bool.false_ne_true h.2.2
      rintro (h | h | h) <;> cases h
    | some point =>
      refine iff_of_true ?_ ⟨not_not.mp hlen, not_not.mp hhead, rfl⟩
      rw [Outcome.ofOption_some, Outcome.ok_bind]
      cases hsig : S.p256Signature response with
      | none => exact judged_of_malformed rfl
      | some sig =>
        rw [Outcome.ofOption_some, Outcome.ok_bind]
        exact judged_ite

/-- The answer to a challenge of eight bytes is judged exactly if the crate has what it takes. -/
lemma judged_verify_iff (hlen : challenge.length = 8) :
    Judged (verify S key challenge response) ↔ Checkable S key response := by
  unfold verify
  rw [if_neg (not_not_intro hlen)]
  obtain ⟨encPubKey, keyType, subPubKeyBytes⟩ := key
  cases keyType with
  | rsa =>
    dsimp only
    rw [judged_verifyRsa_iff]
    exact ⟨fun h => ⟨h.1, fun _ => h.2⟩, fun h => ⟨h.usable, h.hash rfl⟩⟩
  | ecc =>
    dsimp only
    rw [judged_verifyEcdsa_iff]
    exact ⟨fun h => ⟨h, nofun⟩, fun h => h.usable⟩

end Active

end Dmrtd
