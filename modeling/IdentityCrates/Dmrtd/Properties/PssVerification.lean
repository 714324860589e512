import IdentityCrates.Lib.EmsaPss
import IdentityCrates.Dmrtd.Auth.CrateSuite
import IdentityCrates.Dmrtd.Auth.Passive

/-!
# RSASSA-PSS

`verify_pss` derives the length of the encoded message, the bits to mask, the length of the data
block and that of its padding from each other by subtraction, on the key, the salt length and the
signature as they come.  This module compares it with the encoding method of `Lib.EmsaPss`.

Each helper of the code has its lemma: the public operation writes the power at the width of the
modulus (`rawPublic_eq_some`), the loop of `mgf1` gives the mask (`mgf1_eq`), the block without its
spare octet is the encoded message (`encodedMessage_eq`), and what is checked of that is consistency
(`checkEncoded_eq`).  Together they say that `verify_pss` never panics and accepts exactly what
RSASSA-PSS-VERIFY accepts (`verifyPss_iff`), which includes every encoding that a signer makes.

The one thing taken from the caller is that the salt length is a small number.  It comes from the
signature's parameters through `small_uint`, which reads four octets at most
(`smallSalt_parsePssParams`).
-/

namespace Dmrtd

open Rust Octets ModPow

namespace Passive

/-! ## The salt length -/

lemma smallUint_lt {contents : Bytes} {n : Nat} (h : smallUint contents = some n) : n < 2 ^ 32 := by
  unfold smallUint at h
  split at h
  · simp at h
  rename_i b0 tail
  split at h
  · simp at h
  split at h
  · simp at h
  split at h
  · rename_i hlen
    obtain rfl := Option.some.inj h
    calc ofBE (b0 :: tail) < 256 ^ (b0 :: tail).length := ofBE_lt _
      _ ≤ 256 ^ 4 := Nat.pow_le_pow_right (by decide) hlen
      _ = 2 ^ 32 := by norm_num
  · simp at h

/-- A result, if there is one, names a salt length of four octets. -/
def SmallSalt (x : Outcome PassiveAuthError (HashAlgo × HashAlgo × Nat)) : Prop :=
  ∀ result, x = .ok result → result.2.2 < 2 ^ 32

lemma SmallSalt.bind {α : Type} {x : Outcome PassiveAuthError α}
    {f : α → Outcome PassiveAuthError (HashAlgo × HashAlgo × Nat)}
    (h : ∀ a, x = .ok a → SmallSalt (f a)) : SmallSalt (x >>= f) := by
  intro result hresult
  obtain ⟨a, ha, hresult⟩ := Outcome.bind_eq_ok.mp hresult
  exact h a ha result hresult

lemma smallSalt_err (e : PassiveAuthError) : SmallSalt (.err e) := by
  intro result hresult
  simp at hresult

lemma smallSalt_end {rest : Bytes} {hash mgfHash : HashAlgo} {saltLen : Nat}
    (h : saltLen < 2 ^ 32) :
    SmallSalt (if rest ≠ [] then .err .unsupportedHash else .ok (hash, mgfHash, saltLen)) := by
  intro result hresult
  split at hresult
  · simp at hresult
  · obtain rfl := Outcome.ok.inj hresult
    exact h

/-- The salt length that the parameters of a signature give. -/
lemma smallSalt_parsePssParams (params : Bytes) : SmallSalt (parsePssParams params) := by
  unfold parsePssParams
  refine .bind fun rest _ => ?_
  simp only [Outcome.pure_eq, Outcome.ok_bind, Outcome.err_bind]
  -- the four fields may be there or not; only the third one matters here
  repeat' first
    | exact smallSalt_end (by decide)
    | exact smallSalt_end (smallUint_lt (Outcome.ofOption_eq_ok.mp ‹_›))
    | exact smallSalt_err _
    | refine .bind fun _ _ => ?_
    | split

end Passive

namespace RsaPublicKey

/-! ## The public operation -/

variable {key : RsaPublicKey}

lemma n_lt_size (key : RsaPublicKey) : key.n < 256 ^ key.size := by
  refine (Nat.lt_size_self key.n).trans_le ?_
  rw [show (256 : Nat) = 2 ^ 8 from rfl, ← pow_mul]
  exact Nat.pow_le_pow_right (by decide) (by unfold size; omega)

lemma size_pos (key : RsaPublicKey) : 0 < key.size := by
  have hpos := Nat.size_pos.mpr key.n_pos
  unfold size
  omega

lemma lt_toBytesBE (m : Nat) : m < 256 ^ (toBytesBE m).length := by
  refine (Nat.lt_size_self m).trans_le ?_
  rw [toBytesBE, length_toBE, show (256 : Nat) = 2 ^ 8 from rfl, ← pow_mul]
  exact Nat.pow_le_pow_right (by decide) (by omega)

/-- A number padded on the left is the number at the greater width. -/
lemma replicate_append_toBytesBE {m k : Nat} (hk : (toBytesBE m).length ≤ k) :
    List.replicate (k - (toBytesBE m).length) 0 ++ toBytesBE m = toBE k m := by
  have hm := lt_toBytesBE m
  have hvalue : ofBE (toBytesBE m) = m := by
    rw [toBytesBE, length_toBE] at hm
    rw [toBytesBE, ofBE_toBE, Nat.mod_eq_of_lt hm]
  apply ofBE_inj
  · rw [List.length_append, List.length_replicate, length_toBE]
    omega
  · rw [ofBE_append, ofBE_replicate_zero, Nat.zero_mul, Nat.zero_add, hvalue, ofBE_toBE,
      Nat.mod_eq_of_lt (hm.trans_le (Nat.pow_le_pow_right (by decide) hk))]

/-- The public operation, on a signature in range. -/
lemma rawPublic_eq_some {sig block : Bytes} :
    key.rawPublic sig = some block ↔ sig.length = key.size ∧ ofBE sig < key.n ∧
      block = toBE key.size (ofBE sig ^ key.e % key.n) := by
  have hmod : ofBE sig ^ key.e % key.n < key.n := Nat.mod_lt _ key.n_pos
  have hwidth : (toBytesBE (ofBE sig ^ key.e % key.n)).length ≤ key.size := by
    have hsize := Nat.size_le_size hmod.le
    have hpos := size_pos key
    rw [toBytesBE, length_toBE]
    unfold size at hpos ⊢
    omega
  unfold rawPublic
  dsimp only
  rw [modPow_eq]
  constructor
  · intro h
    split at h
    · simp at h
    rename_i hlen
    rw [not_or, not_not] at hlen
    split at h
    · simp at h
    rename_i hrange
    rw [if_neg (by omega), Option.some.injEq, replicate_append_toBytesBE hwidth] at h
    exact ⟨hlen.1, by omega, h.symm⟩
  · rintro ⟨hlen, hrange, rfl⟩
    have hpos := key.n_pos
    rw [if_neg (by omega), if_neg (by omega), if_neg (by omega), replicate_append_toBytesBE hwidth]

/-! ## The mask -/

variable {H : Hashes}

/-- The encoding method that the parameters of a signature name. -/
def pssMethod (H : Hashes) (hash mgfHash : HashAlgo) (saltLen : Nat) : EmsaPss where
  hash := H.digest hash
  hashLen := hash.digestLen
  length_hash := H.length_digest hash
  mask := EmsaPss.mgf1 (H.digest mgfHash) mgfHash.digestLen
  length_mask := EmsaPss.length_mgf1 (H.length_digest mgfHash) mgfHash.digestLen_pos
  saltLen

/-- The loop goes on from the hashes it has to all that it needs. -/
lemma mgf1Loop_eq {hash : HashAlgo} {seed : Bytes} {len : Nat} (hlen : len < 2 ^ 32) {k : Nat}
    (hk : k ≤ (len + hash.digestLen - 1) / hash.digestLen) :
    mgf1Loop H hash seed len
      ((List.range k).flatMap fun counter => H.digest hash (seed ++ toBE 4 counter)) k =
      .ok (EmsaPss.mgf1 (H.digest hash) hash.digestLen seed len) := by
  have hpos := hash.digestLen_pos
  have hout := EmsaPss.length_flatMap_hash (H.length_digest hash) seed k
  induction hleft : (len + hash.digestLen - 1) / hash.digestLen - k generalizing k with
  | zero =>
    have hk : k = (len + hash.digestLen - 1) / hash.digestLen := by omega
    have henough : len ≤ k * hash.digestLen := by
      have hdiv := Nat.lt_div_mul_add (a := len + hash.digestLen - 1) hpos
      rw [← hk] at hdiv
      omega
    rw [mgf1Loop, if_neg (by omega), EmsaPss.mgf1, hk]
  | succ left ih =>
    have hmore : k < (len + hash.digestLen - 1) / hash.digestLen := by omega
    have hshort : k * hash.digestLen < len := by
      have hmul := (Nat.le_div_iff_mul_le hpos).mp (Nat.succ_le_of_lt hmore)
      rw [Nat.succ_mul] at hmul
      omega
    have hcounter : k + 1 < 2 ^ 32 := by
      have hle : k ≤ k * hash.digestLen := Nat.le_mul_of_pos_right k hpos
      omega
    rw [mgf1Loop, if_pos (by omega), checkedAdd_eq hcounter, Outcome.ok_bind,
      ← List.flatMap_singleton (fun counter => H.digest hash (seed ++ toBE 4 counter)) k,
      ← List.flatMap_append, ← List.range_succ]
    exact ih hmore (EmsaPss.length_flatMap_hash (H.length_digest hash) seed (k + 1)) (by omega)

/-- The counter does not run over, and the mask is that of MGF1. -/
lemma mgf1_eq (H : Hashes) (hash : HashAlgo) (seed : Bytes) {len : Nat} (hlen : len < 2 ^ 32) :
    mgf1 H hash seed len = .ok (EmsaPss.mgf1 (H.digest hash) hash.digestLen seed len) :=
  mgf1Loop_eq hlen (Nat.zero_le _)

/-! ## The encoded message -/

/-- The block is the encoded message, with a zero in front of it where the modulus takes one octet
more. -/
lemma encodedMessage_eq {block : Bytes} {emLen : Nat}
    (hlen : block.length = emLen ∨ block.length = emLen + 1) :
    encodedMessage block emLen =
      .ok (if ofBE block < 256 ^ emLen then some (toBE emLen (ofBE block)) else none) := by
  unfold encodedMessage
  rcases hlen with rfl | hlen
  · rw [checkedSub_eq le_rfl, Outcome.ok_bind, if_pos (Nat.sub_self _), if_pos (ofBE_lt block),
      toBE_ofBE]
  · rcases block with _ | ⟨first, em⟩
    · simp at hlen
    obtain rfl : em.length = emLen := Nat.succ.inj hlen
    rw [checkedSub_eq (by simp), Outcome.ok_bind, if_neg (by simp), if_pos (by simp),
      index_eq (a := first) rfl, Outcome.ok_bind]
    by_cases hfirst : first = 0
    · subst hfirst
      rw [if_pos rfl, sliceFrom_eq (by simp), Outcome.ok_bind, ofBE_zero_cons,
        if_pos (ofBE_lt em), toBE_ofBE]
      rfl
    · rw [if_neg hfirst, if_neg (not_lt.mpr (pow_le_ofBE hfirst em))]

/-! ## The data block -/

/-- The mask of the leftmost octet. -/
lemma maskRight_and {k : Nat} (hk : k < 8) (b : UInt8) :
    b &&& (0xFF >>> UInt8.ofNat k) = UInt8.ofNat (b.toNat % 2 ^ (8 - k)) := by
  apply forall_byte (P := fun b => b &&& (0xFF >>> UInt8.ofNat k) =
    UInt8.ofNat (b.toNat % 2 ^ (8 - k)))
  interval_cases k <;> decide +kernel

/-- The bits outside the mask are zero exactly if the mask leaves the octet as it is. -/
lemma maskRight_compl_eq_zero {k : Nat} (hk : k < 8) (b : UInt8) :
    b &&& ~~~(0xFF >>> UInt8.ofNat k) = 0 ↔ UInt8.ofNat (b.toNat % 2 ^ (8 - k)) = b := by
  apply forall_byte (P := fun b => b &&& ~~~(0xFF >>> UInt8.ofNat k) = 0 ↔
    UInt8.ofNat (b.toNat % 2 ^ (8 - k)) = b)
  interval_cases k <;> decide +kernel

/-- A string of one octet more than `k` and `l` together. -/
lemma exists_parts {k l : Nat} {bs : Bytes} (hlen : bs.length = k + 1 + l) :
    ∃ front b back, bs = front ++ b :: back ∧ front.length = k ∧ back.length = l := by
  rcases hdrop : bs.drop k with _ | ⟨b, back⟩
  · have hempty := congrArg List.length hdrop
    rw [List.length_drop, List.length_nil] at hempty
    omega
  · have hfront : (bs.take k).length = k := List.length_take_of_le (by omega)
    have hback := congrArg List.length hdrop
    rw [List.length_drop, List.length_cons] at hback
    exact ⟨bs.take k, b, back, by rw [← hdrop, List.take_append_drop], hfront, by omega⟩

/-- The data block is zeros, a one and a salt that gives the hash. -/
lemma checkDataBlock_eq (H : Hashes) (hash : HashAlgo) {psLen saltLen : Nat} (mHash h : Bytes)
    {db : Bytes} (hlen : db.length = psLen + 1 + saltLen) :
    ∃ accepted, checkDataBlock H hash psLen mHash h db = .ok accepted ∧
      (accepted = true ↔ ∃ salt, salt.length = saltLen ∧
        db = List.replicate psLen 0 ++ 1 :: salt ∧
        h = H.digest hash (List.replicate 8 0 ++ mHash ++ salt)) := by
  obtain ⟨ps, separator, salt, rfl, rfl, rfl⟩ := exists_parts hlen
  -- a salt in the block is this one
  have hparts (salt' : Bytes) : ps ++ separator :: salt = List.replicate ps.length 0 ++ 1 :: salt' ↔
      ps = List.replicate ps.length 0 ∧ separator = 1 ∧ salt = salt' := by
    constructor
    · intro heq
      obtain ⟨hps, htail⟩ := List.append_inj heq (by simp)
      exact ⟨hps, List.cons.inj htail⟩
    · rintro ⟨hps, rfl, rfl⟩
      rw [← hps]
  have hzeros : ps.any (· ≠ 0) = true ↔ ¬ ps = List.replicate ps.length 0 := by
    simp [List.eq_replicate_iff]
  unfold checkDataBlock
  rw [slice_eq (Nat.zero_le _) (by simp), Outcome.ok_bind, List.drop_zero, Nat.sub_zero,
    List.take_left, index_eq (a := separator) (by simp), sliceFrom_eq (by simp)]
  by_cases hps : ps = List.replicate ps.length 0
  · rw [if_neg (by rw [hzeros]; exact not_not.mpr hps), Outcome.ok_bind]
    by_cases hone : separator = 1
    · have hsalt : (ps ++ separator :: salt).drop (ps.length + 1) = salt := by
        rw [List.append_cons, List.drop_left' (by simp)]
      rw [if_neg (not_not.mpr hone), Outcome.ok_bind, hsalt]
      refine ⟨_, rfl, decide_eq_true_iff.trans ⟨fun hhash => ?_, ?_⟩⟩
      · exact ⟨salt, rfl, (hparts salt).mpr ⟨hps, hone, rfl⟩, hhash⟩
      · rintro ⟨salt', -, hdb, hhash⟩
        rwa [((hparts salt').mp hdb).2.2]
    · rw [if_pos hone]
      refine ⟨false, rfl, iff_of_false (by simp) ?_⟩
      rintro ⟨salt', -, hdb, -⟩
      exact hone ((hparts salt').mp hdb).2.1
  · rw [if_pos (hzeros.mpr hps)]
    refine ⟨false, rfl, iff_of_false (by simp) ?_⟩
    rintro ⟨salt', -, hdb, -⟩
    exact hps ((hparts salt').mp hdb).1

/-- An encoded message in its three parts. -/
lemma exists_encoded_parts {emLen hLen : Nat} {em : Bytes} (hem : em.length = emLen)
    (hroom : hLen + 1 ≤ emLen) :
    ∃ maskedDb h trailer, em = maskedDb ++ h ++ [trailer] ∧ h.length = hLen ∧
      maskedDb.length = emLen - hLen - 1 := by
  obtain ⟨front, trailer, back, rfl, hfront, hback⟩ :=
    exists_parts (show em.length = emLen - 1 + 1 + 0 by omega)
  obtain rfl := List.length_eq_zero_iff.mp hback
  refine ⟨front.take (emLen - hLen - 1), front.drop (emLen - hLen - 1), trailer, ?_, ?_, ?_⟩
  · rw [List.take_append_drop]
  · rw [List.length_drop]
    omega
  · rw [List.length_take]
    omega

/-- The parts of an encoded message are determined by the length of the hash. -/
lemma encoded_parts_inj {maskedDb maskedDb' h h' : Bytes} {trailer trailer' : UInt8}
    (hlen : h.length = h'.length)
    (heq : maskedDb ++ h ++ [trailer] = maskedDb' ++ h' ++ [trailer']) :
    maskedDb = maskedDb' ∧ h = h' ∧ trailer = trailer' := by
  obtain ⟨hfront, htrailer⟩ := List.append_inj' heq rfl
  obtain ⟨hmasked, hh⟩ := List.append_inj' hfront hlen
  exact ⟨hmasked, hh, (List.cons.inj htrailer).1⟩

/-- What is checked of the parts is what makes them consistent with the message. -/
lemma checkParts_eq (H : Hashes) {hash : HashAlgo} (mgfHash : HashAlgo) {saltLen emBits : Nat}
    (message : Bytes) {maskedDb : Bytes} (h : Bytes)
    (hroom : hash.digestLen + saltLen + 2 ≤ EmsaPss.encodedLen emBits)
    (hlarge : EmsaPss.encodedLen emBits ≤ 2 ^ 32)
    (hmasked : maskedDb.length = EmsaPss.encodedLen emBits - hash.digestLen - 1) :
    ∃ accepted, checkParts H hash mgfHash saltLen emBits (EmsaPss.encodedLen emBits)
      (H.digest hash message) maskedDb h = .ok accepted ∧
      (accepted = true ↔ EmsaPss.clearLeft (EmsaPss.spareBits emBits) maskedDb = maskedDb ∧
        ∃ salt, salt.length = saltLen ∧
          EmsaPss.clearLeft (EmsaPss.spareBits emBits) (xorBytes maskedDb
            ((pssMethod H hash mgfHash saltLen).mask h maskedDb.length)) =
              (pssMethod H hash mgfHash saltLen).dataBlock emBits salt ∧
          h = (pssMethod H hash mgfHash saltLen).saltedHash message salt) := by
  have hspare := EmsaPss.spareBits_lt emBits
  have hbits : emBits ≤ 8 * EmsaPss.encodedLen emBits := by
    unfold EmsaPss.encodedLen
    omega
  have hpos := hash.digestLen_pos
  have hmask := mgf1_eq H mgfHash h (show maskedDb.length < 2 ^ 32 by omega)
  obtain ⟨first, rest, rfl⟩ : ∃ first rest, maskedDb = first :: rest :=
    List.exists_cons_of_length_pos (by omega)
  have hxor := length_xorBytes ((pssMethod H hash mgfHash saltLen).length_mask h
    (first :: rest).length).symm
  obtain ⟨b, bs, hdb⟩ : ∃ b bs, xorBytes (first :: rest)
      ((pssMethod H hash mgfHash saltLen).mask h (first :: rest).length) = b :: bs :=
    List.exists_cons_of_length_pos (by rw [hxor]; simp)
  have hlen : (EmsaPss.clearLeft (EmsaPss.spareBits emBits) (b :: bs)).length =
      EmsaPss.encodedLen emBits - hash.digestLen - saltLen - 2 + 1 + saltLen := by
    rw [EmsaPss.length_clearLeft, ← hdb, hxor]
    omega
  unfold checkParts
  rw [checkedSub_eq hbits, Outcome.ok_bind,
    show 8 * EmsaPss.encodedLen emBits - emBits = EmsaPss.spareBits emBits from rfl, maskRight,
    if_pos hspare, Outcome.ok_bind,
    index_eq (a := first) rfl, Outcome.ok_bind]
  by_cases hclear : first &&& ~~~(0xFF >>> UInt8.ofNat (EmsaPss.spareBits emBits)) = 0
  · have hmask' : mgf1 H mgfHash h (first :: rest).length =
        .ok ((pssMethod H hash mgfHash saltLen).mask h (first :: rest).length) := hmask
    rw [if_neg (not_not.mpr hclear), hmask', Outcome.ok_bind, hdb]
    dsimp only
    rw [index_eq (a := b) rfl, Outcome.ok_bind, List.set_cons_zero, maskRight_and hspare,
      H.length_digest, checkedSub_eq (by omega), Outcome.ok_bind, checkedSub_eq (by omega),
      Outcome.ok_bind, checkedSub_eq (by omega), Outcome.ok_bind]
    obtain ⟨accepted, haccepted, hiff⟩ :=
      checkDataBlock_eq H hash (H.digest hash message) h hlen
    have hkept : EmsaPss.clearLeft (EmsaPss.spareBits emBits) (first :: rest) = first :: rest := by
      rw [EmsaPss.clearLeft, (maskRight_compl_eq_zero hspare first).mp hclear]
    exact ⟨accepted, haccepted, hiff.trans (and_iff_right hkept).symm⟩
  · rw [if_pos hclear]
    refine ⟨false, rfl, iff_of_false (by simp) fun hconsistent => hclear ?_⟩
    exact (maskRight_compl_eq_zero hspare first).mpr (List.cons.inj hconsistent.1).1

/-- What is checked of the encoded message is that it is consistent with the message. -/
lemma checkEncoded_eq (H : Hashes) (hash mgfHash : HashAlgo) {saltLen emBits : Nat}
    (message : Bytes) {em : Bytes} (hsalt : saltLen < 2 ^ 32) (hlen : em.length = EmsaPss.encodedLen emBits)
    (hlarge : EmsaPss.encodedLen emBits ≤ 2 ^ 32) :
    ∃ accepted, checkEncoded H hash mgfHash saltLen message em emBits
      (EmsaPss.encodedLen emBits) = .ok accepted ∧
      (accepted = true ↔ (pssMethod H hash mgfHash saltLen).Consistent message em emBits) := by
  have hdigest : hash.digestLen ≤ 64 := by cases hash <;> decide
  unfold checkEncoded EmsaPss.Consistent
  dsimp only
  rw [H.length_digest, checkedAdd_eq (by omega), Outcome.ok_bind, checkedAdd_eq (by omega),
    Outcome.ok_bind]
  by_cases hroom : EmsaPss.encodedLen emBits < hash.digestLen + saltLen + 2
  · rw [if_pos hroom]
    exact ⟨false, rfl, iff_of_false (by simp) fun h => absurd h.2.1 (not_le.mpr hroom)⟩
  rw [if_neg hroom]
  rw [not_lt] at hroom
  obtain ⟨maskedDb, h, trailer, rfl, hh, hmasked⟩ :=
    exists_encoded_parts hlen (show hash.digestLen + 1 ≤ EmsaPss.encodedLen emBits by omega)
  have hfront : (maskedDb ++ h).length = EmsaPss.encodedLen emBits - 1 := by
    rw [List.length_append]
    omega
  have hindex : (maskedDb ++ h ++ [trailer])[EmsaPss.encodedLen emBits - 1]? = some trailer := by
    rw [← hfront, List.getElem?_concat_length]
  rw [checkedSub_eq (by omega), Outcome.ok_bind, index_eq hindex, Outcome.ok_bind]
  by_cases htrailer : trailer = 0xbc
  · subst htrailer
    rw [if_neg (not_not.mpr rfl), slice_eq (Nat.zero_le _) (by simp; omega), Outcome.ok_bind,
      List.drop_zero, Nat.sub_zero, List.take_left' hfront, checkedSub_eq (by omega),
      Outcome.ok_bind, checkedSub_eq (by omega), Outcome.ok_bind,
      slice_eq (Nat.zero_le _) (by omega), Outcome.ok_bind, List.drop_zero, Nat.sub_zero,
      List.take_left' hmasked, sliceFrom_eq (by omega), Outcome.ok_bind, List.drop_left' hmasked]
    obtain ⟨accepted, haccepted, hiff⟩ := checkParts_eq H mgfHash message h hroom hlarge hmasked
    refine ⟨accepted, haccepted, hiff.trans ⟨fun hparts => ?_, ?_⟩⟩
    · exact ⟨hlen, hroom, maskedDb, h, rfl, hh, hparts.1, hparts.2⟩
    · rintro ⟨-, -, maskedDb', h', heq, hh', hparts⟩
      obtain ⟨rfl, rfl, -⟩ := encoded_parts_inj (hh.trans hh'.symm) heq
      exact hparts
  · rw [if_pos htrailer]
    refine ⟨false, rfl, iff_of_false (by simp) ?_⟩
    rintro ⟨-, -, maskedDb', h', heq, hh', -⟩
    exact htrailer (encoded_parts_inj (hh.trans hh'.symm) heq).2.2

/-! ## The signature -/

/-- The bits of the encoded message: one less than the modulus has. -/
def emBits (key : RsaPublicKey) : Nat := Nat.size key.n - 1

/-- RSASSA-PSS-VERIFY: the signature is a representative of an encoded message that is consistent
with the message. -/
def PssValid (H : Hashes) (key : RsaPublicKey) (hash mgfHash : HashAlgo) (saltLen : Nat)
    (message sig : Bytes) : Prop :=
  sig.length = key.size ∧ ofBE sig < key.n ∧
    ∃ encoded, encoded.length = EmsaPss.encodedLen key.emBits ∧
      ofBE encoded = ofBE sig ^ key.e % key.n ∧
      (pssMethod H hash mgfHash saltLen).Consistent message encoded key.emBits

lemma encodedLen_le (key : RsaPublicKey) : EmsaPss.encodedLen key.emBits ≤ 2 ^ 32 := by
  have hsize := key.size_le
  unfold EmsaPss.encodedLen emBits
  omega

/-- The verdict on a block: its value is that of an encoded message, or there is none. -/
lemma verifyPss_eq_of_block {hash mgfHash : HashAlgo} {saltLen : Nat} (hsalt : saltLen < 2 ^ 32)
    {message sig block : Bytes} (hraw : key.rawPublic sig = some block) :
    ∃ accepted, key.verifyPss H hash mgfHash saltLen message sig = .ok accepted ∧
      (accepted = true ↔ ∃ encoded, encoded.length = EmsaPss.encodedLen key.emBits ∧
        ofBE encoded = ofBE block ∧
        (pssMethod H hash mgfHash saltLen).Consistent message encoded key.emBits) := by
  obtain ⟨-, -, hblock⟩ := rawPublic_eq_some.mp hraw
  have hbits := Nat.size_pos.mpr key.n_pos
  have hlen : block.length = EmsaPss.encodedLen key.emBits ∨
      block.length = EmsaPss.encodedLen key.emBits + 1 := by
    rw [hblock, length_toBE]
    unfold EmsaPss.encodedLen emBits size
    omega
  unfold verifyPss
  rw [hraw]
  dsimp only
  rw [checkedSub_eq (by omega), Outcome.ok_bind,
    show (Nat.size key.n - 1 + 7) / 8 = EmsaPss.encodedLen key.emBits from rfl,
    encodedMessage_eq hlen, Outcome.ok_bind]
  by_cases hfits : ofBE block < 256 ^ EmsaPss.encodedLen key.emBits
  · rw [if_pos hfits]
    obtain ⟨accepted, haccepted, hiff⟩ := checkEncoded_eq H hash mgfHash message hsalt
      (length_toBE (EmsaPss.encodedLen key.emBits) (ofBE block)) (encodedLen_le key)
    have hvalue : ofBE (toBE (EmsaPss.encodedLen key.emBits) (ofBE block)) = ofBE block := by
      rw [ofBE_toBE, Nat.mod_eq_of_lt hfits]
    refine ⟨accepted, haccepted, hiff.trans ⟨fun hconsistent => ?_, ?_⟩⟩
    · exact ⟨_, length_toBE _ _, hvalue, hconsistent⟩
    · rintro ⟨encoded, hencoded, heq, hconsistent⟩
      rwa [← heq, ← hencoded, toBE_ofBE]
  · rw [if_neg hfits]
    refine ⟨false, rfl, iff_of_false (by simp) ?_⟩
    rintro ⟨encoded, hencoded, heq, -⟩
    rw [← heq, ← hencoded] at hfits
    exact hfits (ofBE_lt encoded)

/-- `verify_pss` comes back with a verdict on every key, signature and message, whatever the two hash
functions and with every salt length that parameters can name (`smallUint_lt`), and it accepts what
RSASSA-PSS-VERIFY accepts.  In particular a signature of anything that EMSA-PSS-ENCODE makes of the
message is accepted. -/
theorem verifyPss_iff (H : Hashes) (key : RsaPublicKey) (hash mgfHash : HashAlgo) {saltLen : Nat}
    (hsalt : saltLen < 2 ^ 32) (message sig : Bytes) :
    ∃ accepted, key.verifyPss H hash mgfHash saltLen message sig = .ok accepted ∧
      (accepted = true ↔ PssValid H key hash mgfHash saltLen message sig) ∧
      ∀ salt encoded, salt.length = saltLen →
        (pssMethod H hash mgfHash saltLen).encode message salt key.emBits = some encoded →
        sig.length = key.size → ofBE sig < key.n → ofBE sig ^ key.e % key.n = ofBE encoded →
        accepted = true := by
  have hverdict : ∃ accepted, key.verifyPss H hash mgfHash saltLen message sig = .ok accepted ∧
      (accepted = true ↔ PssValid H key hash mgfHash saltLen message sig) := by
    cases hraw : key.rawPublic sig with
    | none =>
      refine ⟨false, by rw [verifyPss, hraw], iff_of_false (by simp) ?_⟩
      rintro ⟨hlen, hrange, -⟩
      rw [rawPublic_eq_some.mpr ⟨hlen, hrange, rfl⟩] at hraw
      simp at hraw
    | some block =>
      obtain ⟨hlen, hrange, hblock⟩ := rawPublic_eq_some.mp hraw
      have hvalue : ofBE block = ofBE sig ^ key.e % key.n := by
        rw [hblock, ofBE_toBE, Nat.mod_eq_of_lt ((Nat.mod_lt _ key.n_pos).trans (n_lt_size key))]
      obtain ⟨accepted, haccepted, hiff⟩ := verifyPss_eq_of_block hsalt hraw
      rw [hvalue] at hiff
      exact ⟨accepted, haccepted,
        hiff.trans ((and_iff_right hrange).symm.trans (and_iff_right hlen).symm)⟩
  obtain ⟨accepted, haccepted, hiff⟩ := hverdict
  refine ⟨accepted, haccepted, hiff, fun salt encoded hlen hencode hsize hrange hpower => ?_⟩
  have hconsistent := EmsaPss.consistent_encode hlen hencode
  exact hiff.mpr ⟨hsize, hrange, encoded, hconsistent.1, hpower.symm, hconsistent⟩

/-- The suite of the crate has the verdict of the code: with the salt lengths that parameters can
name, there always is one. -/
lemma crateSuite_verifyPss (H : Hashes) (C : Ecdsa.CurveCrates) (P : P256Crate)
    (key : RsaPublicKey) (hash mgfHash : HashAlgo) {saltLen : Nat} (hsalt : saltLen < 2 ^ 32)
    (message sig : Bytes) : key.verifyPss H hash mgfHash saltLen message sig =
      .ok ((crateSuite H C P).verifyPss key hash mgfHash saltLen message sig) := by
  obtain ⟨accepted, haccepted, -⟩ := verifyPss_iff H key hash mgfHash hsalt message sig
  show _ = Outcome.ok ((key.verifyPss H hash mgfHash saltLen message sig).isOkAnd id)
  rw [haccepted]
  rfl

/-- Hash functions that answer as recorded, and zeros where nothing was. -/
def recordedHashes (digests : List ((HashAlgo × Bytes) × Nat)) : Hashes where
  digest algo data := toBE algo.digestLen ((digests.lookup (algo, data)).getD 0)
  length_digest _ _ := length_toBE _ _

/-- A key of 193 bits: the encoded message takes one octet less than the modulus. -/
def shortKey : RsaPublicKey where
  n := 0x17b72e88db59e1adc142e365744db2c6a2fae2c7608720059
  e := 65537
  n_pos := by decide
  size_le := by decide
  e_ge := by decide
  e_odd := by decide

/-- The hash in the encoded message. -/
def shortHash : Nat := 0xcac93ac7b5f2e40eeb1b3b8028fb246ba8fde0fc

/-- The digests that one signature takes: of the message, of what is salted, and of the seed. -/
def shortHashes : Hashes := recordedHashes [
  ((.sha1, [0x53, 0x4f]), 0x2290cf6ba4ac5387e520088de760b71a523871b0),
  ((.sha1, List.replicate 8 0 ++ toBE 20 0x2290cf6ba4ac5387e520088de760b71a523871b0 ++ [0xca, 0xfe]),
    shortHash),
  ((.sha256, toBE 20 shortHash ++ toBE 4 0),
    0xb23f965b27b027a6c5d8a686add4d528ead2225399bd0e955b065bb3ee2abea5)]

/-- A signature over `SO` with a salt of two octets, SHA-1 for the content and SHA-256 for the
mask. -/
theorem verifyPss_short_key :
    shortKey.verifyPss shortHashes .sha1 .sha256 2 [0x53, 0x4f]
      (toBE 25 0x2de0cc959604a140cbd547af1ca439195deb28350777d208) = .ok true := by
  obtain ⟨accepted, haccepted, -, hencode⟩ := verifyPss_iff shortHashes shortKey .sha1 .sha256
    (show 2 < 2 ^ 32 by decide) [0x53, 0x4f]
    (toBE 25 0x2de0cc959604a140cbd547af1ca439195deb28350777d208)
  have hencoded : (pssMethod shortHashes .sha1 .sha256 2).encode [0x53, 0x4f] [0xca, 0xfe]
      shortKey.emBits = some (toBE 24 0xb3f568cac93ac7b5f2e40eeb1b3b8028fb246ba8fde0fcbc) := by
    decide +kernel
  have hpower : modPow (ofBE (toBE 25 0x2de0cc959604a140cbd547af1ca439195deb28350777d208))
      shortKey.e shortKey.n = ofBE (toBE 24 0xb3f568cac93ac7b5f2e40eeb1b3b8028fb246ba8fde0fcbc) := by
    decide +kernel
  rw [modPow_eq] at hpower
  have htrue := hencode [0xca, 0xfe] _ rfl hencoded (by decide +kernel) (by decide +kernel) hpower
  rw [haccepted, htrue]

end RsaPublicKey

end Dmrtd
