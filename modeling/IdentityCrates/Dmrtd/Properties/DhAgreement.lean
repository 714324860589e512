import IdentityCrates.Dmrtd.Proto.DhPace

/-!
# Generic mapping over a subgroup of prime order

Terminal and chip each hold a key pair in the group of the domain parameters.  From the other's public
key and the nonce each computes the mapped generator, draws a second key pair against it, and agrees
on the secret with the other's second public key.  Before any key is used it is checked: it must lie
in `[2, p-2]` and its power at the order of the subgroup must be one.

Over a subgroup of odd prime order the checks never turn an honest key down: a power of the generator
is zero, one or `p - 1` only at a multiple of the order (`ModPow.pow_mod_mem_range`).  So both sides
compute the same generator, which is again a generator of that order unless it is one
(`PrimeOrderGroup.mapped`), and the same secret.

The order two is out: its only element besides one is `p - 1`, which the range check counts among the
degenerate keys (`order_two_rejects_honest_key`).
-/

namespace Dmrtd

open Rust Octets

/-! ## The group -/

/-- The domain parameters name a prime modulus, a prime `q` that divides `p - 1`, and a generator of
order `q`. -/
structure PrimeOrderGroup (spec : DhParameterSpec) (q : Nat) : Prop where
  order : spec.q = some q
  prime_p : spec.p.Prime
  prime_q : q.Prime
  dvd : q ∣ spec.p - 1
  pow_order : spec.g ^ q % spec.p = 1
  ne_one : spec.g % spec.p ≠ 1

/-- The generator that a nonce and two private keys map the generator of the group to. -/
def mappedGenerator (spec : DhParameterSpec) (nonce x y : Nat) : Nat :=
  spec.g ^ (nonce + x * y) % spec.p

namespace PrimeOrderGroup

variable {spec : DhParameterSpec} {q : Nat}

lemma one_lt (h : PrimeOrderGroup spec q) : 1 < spec.p := h.prime_p.one_lt

/-- The mapped generator generates the same subgroup, unless it is one. -/
lemma mapped (h : PrimeOrderGroup spec q) {nonce x y : Nat}
    (hne : mappedGenerator spec nonce x y ≠ 1) :
    PrimeOrderGroup { spec with g := mappedGenerator spec nonce x y } q := by
  refine ⟨h.order, h.prime_p, h.prime_q, h.dvd, ?_, ?_⟩
  · exact ModPow.pow_mod_pow_eq_one h.one_lt h.pow_order (nonce + x * y)
  · show mappedGenerator spec nonce x y % spec.p ≠ 1
    rw [mappedGenerator, Nat.mod_mod]
    exact hne

/-- The mapped generator is one or within the range that is checked. -/
lemma mappedGenerator_range (h : PrimeOrderGroup spec q) (hodd : q ≠ 2) {nonce x y : Nat}
    (hne : mappedGenerator spec nonce x y ≠ 1) :
    2 ≤ mappedGenerator spec nonce x y ∧ mappedGenerator spec nonce x y ≤ spec.p - 2 := by
  refine ModPow.pow_mod_mem_range h.one_lt h.prime_q hodd h.pow_order h.ne_one ?_
  rintro ⟨k, hk⟩
  refine hne ?_
  rw [mappedGenerator, hk, pow_mul, Nat.pow_mod, h.pow_order, one_pow,
    Nat.mod_eq_of_lt h.one_lt]

end PrimeOrderGroup

/-! ## Engines of the group -/

namespace DHpkcs3Engine

variable {spec : DhParameterSpec} {q : Nat} {own other : DHpkcs3Engine}

lemma publicKey_eq_pow {e : DHpkcs3Engine} (h : e.parameterSpec = spec) :
    e.publicKey = spec.g ^ e.privateKey % spec.p := by
  rw [e.publicKey_eq, ModPow.modPow_eq, h]

/-- A private key is no multiple of the order. -/
lemma not_dvd_privateKey (hgroup : PrimeOrderGroup spec q) {e : DHpkcs3Engine}
    (h : e.parameterSpec = spec) : ¬ q ∣ e.privateKey := by
  have hlt : e.privateKey < q := by
    have hupper := e.privateKey_lt
    rwa [DhParameterSpec.upper, h, hgroup.order, Option.getD_some] at hupper
  intro hdvd
  exact Nat.not_le.mpr hlt (Nat.le_of_dvd e.privateKey_pos hdvd)

/-- An honest public key passes the checks. -/
lemma validatePeerPublicKey_honest (hgroup : PrimeOrderGroup spec q) (hodd : q ≠ 2)
    (hown : own.parameterSpec = spec) (hother : other.parameterSpec = spec) :
    own.validatePeerPublicKey other.publicKey = .ok () := by
  have hrange := ModPow.pow_mod_mem_range hgroup.one_lt hgroup.prime_q hodd hgroup.pow_order
    hgroup.ne_one (not_dvd_privateKey hgroup hother)
  rw [← publicKey_eq_pow hother] at hrange
  refine validatePeerPublicKey_eq_ok.mpr ?_
  rw [hown]
  refine ⟨hgroup.prime_p.two_le, hrange.1, hrange.2, ?_⟩
  intro q' hq'
  obtain rfl := Option.some.inj (hgroup.order.symm.trans hq')
  rw [ModPow.modPow_eq, publicKey_eq_pow hother]
  exact ModPow.pow_mod_pow_eq_one hgroup.one_lt hgroup.pow_order other.privateKey

/-- The secret agreed with an honest key: the generator at the product of the two private keys. -/
lemma computeSecretKey_honest (hgroup : PrimeOrderGroup spec q) (hodd : q ≠ 2)
    (hown : own.parameterSpec = spec) (hother : other.parameterSpec = spec) :
    own.computeSecretKey other.publicKey =
      .ok (spec.g ^ (other.privateKey * own.privateKey) % spec.p) := by
  refine computeSecretKey_eq_ok.mpr ⟨validatePeerPublicKey_honest hgroup hodd hown hother, ?_⟩
  rw [ModPow.modPow_eq, hown, publicKey_eq_pow hother, ModPow.pow_mod_pow_mod]

/-- What the mapping computes from an honest key, before it is checked. -/
lemma mapped_honest (spec : DhParameterSpec) (nonce x y : Nat) :
    ModPow.modPow spec.g nonce spec.p * (spec.g ^ (y * x) % spec.p) % spec.p =
      mappedGenerator spec nonce x y := by
  rw [ModPow.modPow_eq, ← Nat.mul_mod, ← pow_add, mappedGenerator, Nat.mul_comm y x]

lemma computeGenerator_honest (hgroup : PrimeOrderGroup spec q) (hodd : q ≠ 2)
    (hown : own.parameterSpec = spec) (hother : other.parameterSpec = spec) (nonce : Nat)
    (hne : mappedGenerator spec nonce own.privateKey other.privateKey ≠ 1) :
    own.computeGenerator other.publicKey nonce =
      .ok (mappedGenerator spec nonce own.privateKey other.privateKey) := by
  refine computeGenerator_eq_ok.mpr ⟨_, computeSecretKey_honest hgroup hodd hown hother, ?_, ?_⟩
  · rw [hown]
    exact (mapped_honest spec nonce own.privateKey other.privateKey).symm
  · rw [hown]
    exact hgroup.mappedGenerator_range hodd hne

/-- A nonce that maps the generator to one is reported as degenerate. -/
lemma computeGenerator_degenerate (hgroup : PrimeOrderGroup spec q) (hodd : q ≠ 2)
    (hown : own.parameterSpec = spec) (hother : other.parameterSpec = spec) (nonce : Nat)
    (hone : mappedGenerator spec nonce own.privateKey other.privateKey = 1) :
    own.computeGenerator other.publicKey nonce =
      .err ⟨"Mapped generator is degenerate (outside [2, p-2])"⟩ := by
  have hmapped := mapped_honest spec nonce own.privateKey other.privateKey
  rw [hone] at hmapped
  simp only [computeGenerator, computeSecretKey_honest hgroup hodd hown hother, Outcome.ok_bind,
    hown, hmapped, if_pos (Or.inl (show (1 : Nat) < 2 by decide))]

end DHpkcs3Engine

/-! ## The two parties -/

namespace DHPace

/-- A party that holds the static key pair `e` in the group. -/
structure HasKey (party : DHPace) (spec : DhParameterSpec) (e : DHpkcs3Engine) : Prop where
  domain : party.domainSpec = spec
  engine : party.engine = some e
  engine_spec : e.parameterSpec = spec

/-- A party that holds the ephemeral key pair `e` against the generator `g`. -/
structure HasEphemeral (party : DHPace) (spec : DhParameterSpec) (g : Nat) (e : DHpkcs3Engine) :
    Prop where
  ephemeral : party.ephemeral = some e
  engine_spec : e.parameterSpec = { spec with g := g }

variable {self : DHPace} {spec : DhParameterSpec} {e : DHpkcs3Engine}

/-- A party with a static key has an ephemeral one once it has drawn it. -/
lemma HasKey.hasEphemeral (h : self.HasKey spec e) {g : Nat} {entropy rest : Entropy}
    {self' : DHPace}
    (hdrawn : self.generateEphemeralWithCustomGenerator g entropy = .ok (self', rest)) :
    ∃ e', self'.HasEphemeral spec g e' := by
  obtain ⟨⟨e', rest'⟩, he, hself⟩ := Outcome.bind_eq_ok.mp hdrawn
  have hspec := DHpkcs3Engine.new_eq_ok (Outcome.mapErr_eq_ok.mp he)
  rw [Outcome.pure_eq, Outcome.ok.injEq, Prod.mk.injEq] at hself
  rw [h.domain] at hspec
  refine ⟨e', ?_, hspec⟩
  rw [← hself.1]

lemma HasKey.getPubKey (h : self.HasKey spec e) :
    self.getPubKey = .ok (.dh (bigUintToBytes e.publicKey)) := by
  rw [DHPace.getPubKey, publicKey, h.engine]
  rfl

lemma HasEphemeral.getPubKeyEphemeral {g : Nat} (h : self.HasEphemeral spec g e) :
    self.getPubKeyEphemeral = .ok (.dh (bigUintToBytes e.publicKey)) := by
  rw [DHPace.getPubKeyEphemeral, ephemeralPublicKey, h.ephemeral]
  rfl

lemma HasKey.getMappedGenerator (h : self.HasKey spec e) (y : Nat) (nonce : Bytes) :
    self.getMappedGenerator (bigUintToBytes y) nonce =
      bigUintToBytes <$> (e.computeGenerator y (ofBE nonce)).mapErr
        fun err => DHPaceError.mk err.message := by
  rw [DHPace.getMappedGenerator, h.engine, Outcome.ofOption_some, Outcome.ok_bind,
    ofBE_bigUintToBytes, map_eq_pure_bind]

lemma HasEphemeral.getEphemeralSharedSecret {g : Nat} (h : self.HasEphemeral spec g e) (y : Nat) :
    self.getEphemeralSharedSecret (bigUintToBytes y) =
      (e.computeSecretKey y).mapErr fun err => DHPaceError.mk err.message := by
  rw [DHPace.getEphemeralSharedSecret, h.ephemeral, Outcome.ofOption_some, Outcome.ok_bind,
    ofBE_bigUintToBytes]

/-- Both parties take the other's second key and agree on one secret. -/
structure AgreeOnSecret (terminal chip : DHPace) (eT eC : DHpkcs3Engine) : Prop where
  terminal_accepts : eT.validatePeerPublicKey eC.publicKey = .ok ()
  chip_accepts : eC.validatePeerPublicKey eT.publicKey = .ok ()
  secret : ∃ keyT keyC secret, terminal.getPubKeyEphemeral = .ok keyT ∧
    chip.getPubKeyEphemeral = .ok keyC ∧
    terminal.getEphemeralSharedSecret keyC.toRelevantBytes = .ok secret ∧
    chip.getEphemeralSharedSecret keyT.toRelevantBytes = .ok secret

lemma agreeOnSecret {q : Nat} (hodd : q ≠ 2) {terminal chip : DHPace}
    {eT eC : DHpkcs3Engine} {g : Nat} (hgroup : PrimeOrderGroup { spec with g := g } q)
    (hT : terminal.HasEphemeral spec g eT) (hC : chip.HasEphemeral spec g eC) :
    AgreeOnSecret terminal chip eT eC := by
  have hsecretT := DHpkcs3Engine.computeSecretKey_honest hgroup hodd hT.engine_spec hC.engine_spec
  have hsecretC := DHpkcs3Engine.computeSecretKey_honest hgroup hodd hC.engine_spec hT.engine_spec
  rw [Nat.mul_comm] at hsecretC
  refine ⟨DHpkcs3Engine.validatePeerPublicKey_honest hgroup hodd hT.engine_spec hC.engine_spec,
    DHpkcs3Engine.validatePeerPublicKey_honest hgroup hodd hC.engine_spec hT.engine_spec, ?_⟩
  refine ⟨_, _, g ^ (eC.privateKey * eT.privateKey) % spec.p, hT.getPubKeyEphemeral,
    hC.getPubKeyEphemeral, ?_, ?_⟩
  · rw [PublicKeyPace.toRelevantBytes, hT.getEphemeralSharedSecret, hsecretT, Outcome.mapErr_ok]
  · rw [PublicKeyPace.toRelevantBytes, hC.getEphemeralSharedSecret, hsecretC, Outcome.mapErr_ok]

/-- What two parties with static keys `eT` and `eC` make of one nonce.  The ephemeral keys range over
all key pairs against the mapped generator, and the last two fields say that these are what a party
draws. -/
structure GenericMapping (spec : DhParameterSpec) (terminal chip : DHPace)
    (eT eC : DHpkcs3Engine) (nonce : Bytes) : Prop where
  terminal_accepts : eT.validatePeerPublicKey eC.publicKey = .ok ()
  chip_accepts : eC.validatePeerPublicKey eT.publicKey = .ok ()
  degenerate : mappedGenerator spec (ofBE nonce) eT.privateKey eC.privateKey = 1 →
    ∃ keyT keyC, terminal.getPubKey = .ok keyT ∧ chip.getPubKey = .ok keyC ∧
      terminal.getMappedGenerator keyC.toRelevantBytes nonce =
        .err ⟨"Mapped generator is degenerate (outside [2, p-2])"⟩ ∧
      chip.getMappedGenerator keyT.toRelevantBytes nonce =
        .err ⟨"Mapped generator is degenerate (outside [2, p-2])"⟩
  agree : mappedGenerator spec (ofBE nonce) eT.privateKey eC.privateKey ≠ 1 →
    ∃ keyT keyC g, terminal.getPubKey = .ok keyT ∧ chip.getPubKey = .ok keyC ∧
      terminal.getMappedGenerator keyC.toRelevantBytes nonce = .ok g ∧
      chip.getMappedGenerator keyT.toRelevantBytes nonce = .ok g ∧
      ∀ terminal' chip' eT' eC', terminal'.HasEphemeral spec (ofBE g) eT' →
        chip'.HasEphemeral spec (ofBE g) eC' → AgreeOnSecret terminal' chip' eT' eC'
  terminal_draws : ∀ g entropy rest terminal',
    terminal.generateEphemeralWithCustomGenerator g entropy = .ok (terminal', rest) →
      ∃ eT', terminal'.HasEphemeral spec g eT'
  chip_draws : ∀ g entropy rest chip',
    chip.generateEphemeralWithCustomGenerator g entropy = .ok (chip', rest) →
      ∃ eC', chip'.HasEphemeral spec g eC'

/-- **Generic mapping.**  Over a subgroup of odd prime order, for all static keys and every nonce:
neither side turns the other's public key down; both compute the same generator, unless it is one, in
which case both report it as degenerate; and for all ephemeral keys against that generator, neither
side turns the other's ephemeral key down and both obtain the same secret. -/
theorem genericMapping_agrees {q : Nat} (hgroup : PrimeOrderGroup spec q) (hodd : q ≠ 2)
    {terminal chip : DHPace} {eT eC : DHpkcs3Engine} (hT : terminal.HasKey spec eT)
    (hC : chip.HasKey spec eC) (nonce : Bytes) :
    GenericMapping spec terminal chip eT eC nonce := by
  have hsymm : mappedGenerator spec (ofBE nonce) eC.privateKey eT.privateKey =
      mappedGenerator spec (ofBE nonce) eT.privateKey eC.privateKey := by
    rw [mappedGenerator, mappedGenerator, Nat.mul_comm]
  refine ⟨DHpkcs3Engine.validatePeerPublicKey_honest hgroup hodd hT.engine_spec hC.engine_spec,
    DHpkcs3Engine.validatePeerPublicKey_honest hgroup hodd hC.engine_spec hT.engine_spec, ?_, ?_,
    fun _ _ _ _ hdrawn => hT.hasEphemeral hdrawn, fun _ _ _ _ hdrawn => hC.hasEphemeral hdrawn⟩
  · intro hone
    refine ⟨_, _, hT.getPubKey, hC.getPubKey, ?_, ?_⟩
    · rw [PublicKeyPace.toRelevantBytes, hT.getMappedGenerator,
        DHpkcs3Engine.computeGenerator_degenerate hgroup hodd hT.engine_spec hC.engine_spec _ hone]
      rfl
    · rw [PublicKeyPace.toRelevantBytes, hC.getMappedGenerator,
        DHpkcs3Engine.computeGenerator_degenerate hgroup hodd hC.engine_spec hT.engine_spec _
          (hsymm.trans hone)]
      rfl
  · intro hne
    refine ⟨_, _, bigUintToBytes (mappedGenerator spec (ofBE nonce) eT.privateKey eC.privateKey),
      hT.getPubKey, hC.getPubKey, ?_, ?_, ?_⟩
    · rw [PublicKeyPace.toRelevantBytes, hT.getMappedGenerator,
        DHpkcs3Engine.computeGenerator_honest hgroup hodd hT.engine_spec hC.engine_spec _ hne]
      rfl
    · rw [PublicKeyPace.toRelevantBytes, hC.getMappedGenerator,
        DHpkcs3Engine.computeGenerator_honest hgroup hodd hC.engine_spec hT.engine_spec _
          (hsymm.trans_ne hne), hsymm]
      rfl
    · intro terminal' chip' eT' eC' hT' hC'
      rw [ofBE_bigUintToBytes] at hT' hC'
      exact agreeOnSecret hodd (hgroup.mapped hne) hT' hC'

/-! ## Small groups -/

/-- The subgroup of order eleven modulo 23. -/
def squaresModulo23 : DhParameterSpec := ⟨23, 4, 8, some 11⟩

lemma squaresModulo23_group : PrimeOrderGroup squaresModulo23 11 :=
  ⟨rfl, show Nat.Prime 23 by norm_num, by norm_num, by decide, by decide, by decide⟩

/-- The key pair of a private key in that group. -/
def squaresEngine (x : Nat) (hpos : 0 < x) (hlt : x < 11) : DHpkcs3Engine :=
  ⟨squaresModulo23, ModPow.modPow 4 x 23, x, hpos, hlt, rfl⟩

theorem genericMapping_agrees_squares :
    GenericMapping squaresModulo23
      ⟨squaresModulo23, some (squaresEngine 3 (by decide) (by decide)), none⟩
      ⟨squaresModulo23, some (squaresEngine 5 (by decide) (by decide)), none⟩
      (squaresEngine 3 (by decide) (by decide)) (squaresEngine 5 (by decide) (by decide))
      [0x07] :=
  genericMapping_agrees squaresModulo23_group (by decide) ⟨rfl, rfl, rfl⟩ ⟨rfl, rfl, rfl⟩ [0x07]

/-- The subgroup of order two modulo seven, with its only key pair. -/
def orderTwoEngine : DHpkcs3Engine :=
  ⟨⟨7, 6, 8, some 2⟩, 6, 1, by decide, by decide, by decide⟩

/-- In a subgroup of order two the only public key is `p - 1`, and it is turned down although the
generator that the nonce maps to is not one. -/
theorem order_two_rejects_honest_key :
    PrimeOrderGroup ⟨7, 6, 8, some 2⟩ 2 ∧
      mappedGenerator ⟨7, 6, 8, some 2⟩ (ofBE [0x00]) orderTwoEngine.privateKey
        orderTwoEngine.privateKey = 6 ∧
      orderTwoEngine.validatePeerPublicKey orderTwoEngine.publicKey =
        .err ⟨"Peer DH public key out of range; require 2 <= y <= p-2"⟩ ∧
      (⟨⟨7, 6, 8, some 2⟩, some orderTwoEngine, none⟩ : DHPace).getMappedGenerator
          (bigUintToBytes orderTwoEngine.publicKey) [0x00] =
        .err ⟨"Peer DH public key out of range; require 2 <= y <= p-2"⟩ := by
  refine ⟨⟨rfl, ?_, Nat.prime_two, by decide, by decide, by decide⟩, by decide, by decide,
    by decide⟩
  show Nat.Prime 7
  norm_num

end DHPace

end Dmrtd
