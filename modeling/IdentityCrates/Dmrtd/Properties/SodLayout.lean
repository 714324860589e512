import Mathlib.Data.Nat.Log
import IdentityCrates.Dmrtd.Properties.PassiveSoundness

/-!
# The layout of EF.SOD

The parsers of `passive.rs` check, convert and decide while they walk.  `layout` only walks: it names
the parts of the CMS structure that RFC 5652 speaks of, as the bytes they are in the file, with no
hash, no algorithm and no certificate understood.  Where `SignedData::parse` succeeds the layout
exists, and every field of its result is read off one part of it (`exists_layout`).

The loops of the parsers are loops over DER elements.  `Der.elements` is that sequence, and the
lemmas `collectCertificates_eq_ok`, `foldAttributes_eq_ok` and `collectHashes_eq_ok` say what each
loop does with it.  A number of the hash list comes up once (`filter_eq_of_lookup`), while of several
attributes of one type the last one counts (`foldl_foldAttribute`).
-/

namespace Dmrtd

open Rust Octets

/-! ## Elements and their encodings -/

namespace Der

/-- The length octets that DER prescribes: one octet below 128, and otherwise the number of the
octets and then the length in as few octets as it takes. -/
def lengthOctets (len : Nat) : Bytes :=
  if len < 0x80 then [UInt8.ofNat len]
  else UInt8.ofNat (0x80 + (Nat.log 256 len + 1)) :: toBE (Nat.log 256 len + 1) len

/-- The encoding of one element. -/
def encode (tag : UInt8) (contents : Bytes) : Bytes :=
  tag :: (lengthOctets contents.length ++ contents)

/-- The tags and contents of the elements that make up the input, one after the other. -/
def elements (input : Bytes) : Option (List (UInt8 × Bytes)) :=
  if input = [] then some []
  else
    match _ : next input with
    | none => none
    | some e => (elements e.rest).map fun rest => (e.tag, e.contents) :: rest
termination_by input.length
decreasing_by
  have := length_of_next ‹_›
  omega

lemma elements_nil : elements [] = some [] := by
  rw [elements, if_pos rfl]

lemma elements_of_next {input : Bytes} {e : Element} (h : next input = some e) :
    elements input = (elements e.rest).map fun rest => (e.tag, e.contents) :: rest := by
  have hne : input ≠ [] := by
    rintro rfl
    simp [next] at h
  rw [elements, if_neg hne]
  split
  · rename_i hnone
    rw [hnone] at h
    simp at h
  · rename_i e' hsome
    obtain rfl : e' = e := Option.some.inj (hsome.symm.trans h)
    rfl

/-- Induction along the elements of an input. -/
@[elab_as_elim]
lemma elements_induction {motive : Bytes → List (UInt8 × Bytes) → Prop} (nil : motive [] [])
    (next : ∀ input e els, next input = some e → elements e.rest = some els →
      motive e.rest els → motive input ((e.tag, e.contents) :: els))
    {input : Bytes} {els : List (UInt8 × Bytes)} (h : elements input = some els) :
    motive input els := by
  induction hlen : input.length using Nat.strongRecOn generalizing input els with
  | _ n ih =>
    by_cases hnil : input = []
    · subst hnil
      rw [elements_nil] at h
      obtain rfl := Option.some.inj h
      exact nil
    · cases hnext : Der.next input with
      | none =>
        rw [elements, if_neg hnil] at h
        split at h
        · simp at h
        · rename_i e hsome
          rw [hnext] at hsome
          simp at hsome
      | some e =>
        rw [elements_of_next hnext] at h
        obtain ⟨els', hels', rfl⟩ := Option.map_eq_some_iff.mp h
        have hshorter := length_of_next hnext
        exact next input e els' hnext hels' (ih e.rest.length (by omega) hels' rfl)

lemma expect_eq_some {input contents : Bytes} {tag : UInt8} :
    expect input tag = some contents ↔ next input = some ⟨tag, contents, []⟩ := by
  rw [expect, Option.bind_eq_bind, Option.bind_eq_some_iff]
  constructor
  · rintro ⟨⟨t, c, r⟩, hnext, h⟩
    dsimp only at h
    split at h
    · rename_i ht
      obtain ⟨rfl, rfl⟩ := ht
      rw [hnext, Option.some.inj h]
    · simp at h
  · intro h
    exact ⟨_, h, by simp⟩

end Der

namespace Passive

/-! ## The length octets of the source -/

/-- `push_len` writes what DER prescribes for the lengths that three octets can hold. -/
lemma pushLen_eq {n : Nat} (h : n < 2 ^ 24) : pushLen n = Der.lengthOctets n := by
  unfold pushLen Der.lengthOctets
  split
  · rfl
  rename_i hshort
  split
  · rename_i hone
    rw [Nat.log_eq_of_pow_le_of_lt_pow (m := 0) (by omega) (by omega)]
    rfl
  rename_i hone
  have hdiv (m k : Nat) : m >>> k = m / 2 ^ k := Nat.shiftRight_eq_div_pow m k
  have hlow (m : Nat) : UInt8.ofNat (m &&& 0xff) = UInt8.ofNat m := by
    apply UInt8.toNat_inj.mp
    rw [show 0xff = 2 ^ 8 - 1 from rfl, Nat.and_two_pow_sub_one_eq_mod, UInt8.toNat_ofNat',
      UInt8.toNat_ofNat']
    omega
  split
  · rename_i htwo
    rw [Nat.log_eq_of_pow_le_of_lt_pow (m := 1) (by omega) (by omega), hlow, hdiv]
    rfl
  · rename_i htwo
    rw [Nat.log_eq_of_pow_le_of_lt_pow (m := 2) (by omega) (by omega), hlow, hlow, hdiv, hdiv]
    simp only [toBE_succ, toBE_zero, List.nil_append, List.cons_append, Nat.div_div_eq_div_mul]
    rfl

/-- From four octets on it writes too few. -/
lemma pushLen_ne {n : Nat} (h : 2 ^ 24 ≤ n) : pushLen n ≠ Der.lengthOctets n := by
  intro heq
  have hlen := congrArg List.length heq
  have hlog : 3 ≤ Nat.log 256 n := Nat.le_log_of_pow_le (by omega) (by omega)
  have hlong : (Der.lengthOctets n).length = Nat.log 256 n + 2 := by
    rw [Der.lengthOctets, if_neg (by omega), List.length_cons, length_toBE]
  have hshort : (pushLen n).length = 4 := by
    rw [pushLen, if_neg (by omega), if_neg (by omega), if_neg (by omega)]
    rfl
  omega

/-- Behind three length octets there is room for less than sixteen megabytes. -/
lemma contents_of_next {tag x y z : UInt8} {tail : Bytes} {e : Der.Element}
    (h : Der.next (tag :: 0x83 :: x :: y :: z :: tail) = some e) :
    e.contents.length < 2 ^ 24 ∧ e.contents ++ e.rest = tail := by
  obtain ⟨⟨len, body⟩, hlen, h⟩ := Option.bind_eq_some_iff.mp h
  have hnumber : (0x83 &&& 0x7f : UInt8).toNat = 3 := rfl
  unfold Der.nextLength at hlen
  rw [if_neg (by decide)] at hlen
  dsimp only at hlen
  rw [hnumber, List.take_succ_cons, List.take_succ_cons, List.take_succ_cons, List.take_zero] at hlen
  split at hlen
  · simp at hlen
  split at hlen
  · simp at hlen
  split at hlen
  · simp at hlen
  obtain ⟨rfl, rfl⟩ := Prod.mk.inj (Option.some.inj hlen)
  have hbound : ofBE [x, y, z] < 256 ^ 3 := ofBE_lt [x, y, z]
  dsimp only at h
  split at h
  · simp at h
  · obtain rfl := Option.some.inj h
    refine ⟨?_, List.take_append_drop _ _⟩
    rw [List.length_take]
    omega

/-- So a certificate that was wrapped as its own SEQUENCE and then parsed was wrapped properly. -/
lemma encode_of_parse {S : SignatureSuite} {contents : Bytes} {cert : Certificate S}
    (h : Certificate.parse S (Der.sequence :: (pushLen contents.length ++ contents)) = .ok cert) :
    Der.sequence :: (pushLen contents.length ++ contents) = Der.encode Der.sequence contents := by
  rw [Der.encode, pushLen_eq]
  by_contra hlarge
  rw [not_lt] at hlarge
  obtain ⟨body, hbody, -⟩ := Outcome.bind_eq_ok.mp h
  have hnext := Der.expect_eq_some.mp (Outcome.ofOption_eq_ok.mp hbody)
  rw [pushLen, if_neg (by omega), if_neg (by omega), if_neg (by omega)] at hnext
  obtain ⟨hlen, hall⟩ := contents_of_next hnext
  have hbody : body ++ [] = contents := hall
  rw [← hbody, List.append_nil] at hlarge
  exact absurd hlen (not_lt.mpr hlarge)

/-! ## The loops of the parsers -/

lemma collectCertificates_eq_ok {rest : Bytes} {certs : List Bytes}
    (h : collectCertificates rest = .ok certs) :
    ∃ els, Der.elements rest = some els ∧
      certs = els.map fun e => Der.sequence :: (pushLen e.2.length ++ e.2) := by
  induction hlen : rest.length using Nat.strongRecOn generalizing rest certs with
  | _ n ih =>
    rw [collectCertificates] at h
    split at h
    · rename_i hnil
      obtain rfl := Outcome.ok.inj h
      exact ⟨[], by rw [hnil, Der.elements_nil], rfl⟩
    split at h
    · simp at h
    · rename_i e hnext
      obtain ⟨certs', hcerts, h⟩ := Outcome.bind_eq_ok.mp h
      obtain rfl := Outcome.ok.inj h
      have hshorter := Der.length_of_next hnext
      obtain ⟨els, hels, rfl⟩ := ih e.rest.length (by omega) hcerts rfl
      exact ⟨(e.tag, e.contents) :: els, by rw [Der.elements_of_next hnext, hels]; rfl, rfl⟩

lemma collectCertificates_nil : collectCertificates [] = .ok [] := by
  rw [collectCertificates, if_pos rfl]

lemma collectCertificates_of_next {rest : Bytes} {e : Der.Element} (h : Der.next rest = some e) :
    collectCertificates rest = (do
      let certs ← collectCertificates e.rest
      .ok ((Der.sequence :: (pushLen e.contents.length ++ e.contents)) :: certs)) := by
  have hne : rest ≠ [] := by
    rintro rfl
    simp [Der.next] at h
  rw [collectCertificates, if_neg hne]
  split
  · rename_i hnone
    rw [hnone] at h
    simp at h
  · rename_i e' hsome
    obtain rfl : e' = e := Option.some.inj (hsome.symm.trans h)
    rfl

lemma foldAttributes_nil (found : Option Bytes × Option (List Nat)) :
    foldAttributes found [] = .ok found := by
  rw [foldAttributes, if_pos rfl]

lemma foldAttributes_of_next {rest : Bytes} {found : Option Bytes × Option (List Nat)}
    {e : Der.Element} (h : Der.next rest = some e) :
    foldAttributes found rest = foldAttributes (foldAttribute e.tag e.contents found) e.rest := by
  have hne : rest ≠ [] := by
    rintro rfl
    simp [Der.next] at h
  rw [foldAttributes, if_neg hne]
  split
  · rename_i hnone
    rw [hnone] at h
    simp at h
  · rename_i e' hsome
    obtain rfl : e' = e := Option.some.inj (hsome.symm.trans h)
    rfl

/-- Every field that splits into elements is folded. -/
lemma foldAttributes_of_elements {rest : Bytes} {els : List (UInt8 × Bytes)}
    (h : Der.elements rest = some els) (found : Option Bytes × Option (List Nat)) :
    foldAttributes found rest =
      .ok (els.foldl (fun found e => foldAttribute e.1 e.2 found) found) := by
  refine Der.elements_induction (motive := fun rest els => ∀ found, foldAttributes found rest =
    .ok (els.foldl (fun found e => foldAttribute e.1 e.2 found) found)) ?_ ?_ h found
  · exact foldAttributes_nil
  · intro rest e els hnext _ ih found
    rw [foldAttributes_of_next hnext, ih, List.foldl_cons]

lemma foldAttributes_eq_ok {rest : Bytes} {found found' : Option Bytes × Option (List Nat)}
    (h : foldAttributes found rest = .ok found') :
    ∃ els, Der.elements rest = some els ∧
      found' = els.foldl (fun found e => foldAttribute e.1 e.2 found) found := by
  induction hlen : rest.length using Nat.strongRecOn generalizing rest found with
  | _ n ih =>
    rw [foldAttributes] at h
    split at h
    · rename_i hnil
      obtain rfl := Outcome.ok.inj h
      exact ⟨[], by rw [hnil, Der.elements_nil], rfl⟩
    split at h
    · simp at h
    · rename_i e hnext
      have hshorter := Der.length_of_next hnext
      obtain ⟨els, hels, rfl⟩ := ih e.rest.length (by omega) h rfl
      exact ⟨(e.tag, e.contents) :: els, by rw [Der.elements_of_next hnext, hels]; rfl, rfl⟩

/-! ### Attributes -/

/-- What follows the type of an attribute, for the attributes of one type, in order. -/
def attributeValues (type : List Nat) (els : List (UInt8 × Bytes)) : List Bytes :=
  els.filterMap fun e =>
    if e.1 = Der.sequence then
      match Der.take e.2 Der.oid with
      | some (oid, after) => if Der.oidArcs oid = some type then some after else none
      | none => none
    else none

/-- The value of a message-digest attribute: one OCTET STRING in a SET. -/
def digestValue (after : Bytes) : Option Bytes :=
  (Der.expect after Der.set).bind fun v => Der.expect v Der.octetString

/-- The value of a content-type attribute: one object identifier in a SET. -/
def typeValue (after : Bytes) : Option (List Nat) :=
  ((Der.expect after Der.set).bind fun v => Der.expect v Der.oid).bind Der.oidArcs

/-- One more attribute replaces the value of its type. -/
lemma foldAttribute_eq (e : UInt8 × Bytes) (found : Option Bytes × Option (List Nat)) :
    foldAttribute e.1 e.2 found =
      (((attributeValues oidMessageDigest [e]).getLast?.map digestValue).getD found.1,
        ((attributeValues oidContentType [e]).getLast?.map typeValue).getD found.2) := by
  obtain ⟨tag, contents⟩ := e
  have hne : oidContentType ≠ oidMessageDigest := by decide
  unfold foldAttribute attributeValues
  by_cases htag : tag = Der.sequence
  · cases htake : Der.take contents Der.oid with
    | none => simp [htag, htake]
    | some pair =>
      obtain ⟨oid, after⟩ := pair
      by_cases hdigest : Der.oidArcs oid = some oidMessageDigest
      · have hother : ¬ some oidMessageDigest = some oidContentType := by
          simpa using hne.symm
        simp [htag, htake, hdigest, hne.symm, digestValue]
      · by_cases htype : Der.oidArcs oid = some oidContentType
        · simp [htag, htake, htype, hne, typeValue]
        · simp [htag, htake, hdigest, htype]
  · simp [htag]

lemma attributeValues_append (type : List Nat) (els els' : List (UInt8 × Bytes)) :
    attributeValues type (els ++ els') = attributeValues type els ++ attributeValues type els' :=
  List.filterMap_append

/-- Of several attributes of one type the last one counts. -/
lemma foldl_foldAttribute (els : List (UInt8 × Bytes)) :
    els.foldl (fun found e => foldAttribute e.1 e.2 found) (none, none) =
      ((attributeValues oidMessageDigest els).getLast?.bind digestValue,
        (attributeValues oidContentType els).getLast?.bind typeValue) := by
  induction els using List.reverseRecOn with
  | nil => rfl
  | append_singleton els e ih =>
    rw [List.foldl_append, ih, List.foldl_cons, List.foldl_nil, foldAttribute_eq,
      attributeValues_append, attributeValues_append, List.getLast?_append, List.getLast?_append]
    congr 1
    · cases (attributeValues oidMessageDigest [e]).getLast? <;> rfl
    · cases (attributeValues oidContentType [e]).getLast? <;> rfl

/-! ### Hashes of data groups -/

/-- The number and the hash of an element of the list. -/
def hashEntry (e : UInt8 × Bytes) : Option (UInt8 × Bytes) := do
  let (num, after) ← Der.take e.2 Der.integer
  let (hash, _) ← Der.take after Der.octetString
  let n ← groupNumber num
  some (n, hash)

lemma takeHash_eq_some {rest tail hash : Bytes} {n : UInt8}
    (h : takeHash rest = some (n, hash, tail)) :
    ∃ contents, Der.next rest = some ⟨Der.sequence, contents, tail⟩ ∧
      hashEntry (Der.sequence, contents) = some (n, hash) := by
  simp only [takeHash, Option.bind_eq_bind, Option.bind_eq_some_iff] at h
  obtain ⟨⟨contents, tail'⟩, htake, ⟨num, after⟩, hnum, ⟨hash', last⟩, hhash, h⟩ := h
  dsimp only at hnum hhash h
  split at h
  · simp at h
  obtain ⟨n', hn, h⟩ := Option.bind_eq_some_iff.mp h
  obtain ⟨rfl, hpair⟩ := Prod.mk.inj (Option.some.inj h)
  obtain ⟨rfl, rfl⟩ := Prod.mk.inj hpair
  refine ⟨contents, Der.take_eq_some.mp htake, ?_⟩
  simp only [hashEntry, Option.bind_eq_bind, Option.bind_eq_some_iff]
  exact ⟨_, hnum, _, hhash, _, hn, rfl⟩

lemma insertHash_perm (n : UInt8) (hash : Bytes) (hashes : List (UInt8 × Bytes)) :
    (insertHash n hash hashes).Perm ((n, hash) :: hashes) := by
  induction hashes with
  | nil => rfl
  | cons entry hashes ih =>
    rw [insertHash]
    split
    · rfl
    · exact (ih.cons entry).trans (List.Perm.swap _ _ _)

lemma not_mem_keys {hashes : List (UInt8 × Bytes)} {n : UInt8}
    (h : ¬ (hashes.lookup n).isSome = true) : n ∉ hashes.map Prod.fst := by
  rw [Bool.not_eq_true, Option.isSome_eq_false_iff, Option.isNone_iff_eq_none,
    List.lookup_eq_none_iff] at h
  intro hmem
  obtain ⟨entry, hentry, hkey⟩ := List.mem_map.mp hmem
  have hne := h entry hentry
  rw [hkey] at hne
  simp at hne

/-- The entries are collected as they are listed, and no number comes up twice. -/
lemma collectHashes_eq_ok {rest : Bytes} {hashes hashes' : List (UInt8 × Bytes)}
    (h : collectHashes hashes rest = .ok hashes') (hnodup : (hashes.map Prod.fst).Nodup) :
    ∃ els, Der.elements rest = some els ∧ hashes'.Perm (els.filterMap hashEntry ++ hashes) ∧
      (hashes'.map Prod.fst).Nodup := by
  induction hlen : rest.length using Nat.strongRecOn generalizing rest hashes with
  | _ n ih =>
    rw [collectHashes] at h
    split at h
    · rename_i hnil
      obtain rfl := Outcome.ok.inj h
      exact ⟨[], by rw [hnil, Der.elements_nil], .refl _, hnodup⟩
    split at h
    · simp at h
    rename_i number hash tail htake
    split at h
    · simp at h
    rename_i hnew
    obtain ⟨contents, hnext, hentry⟩ := takeHash_eq_some htake
    have hshorter := length_of_takeHash htake
    have hperm := insertHash_perm number hash hashes
    have hnodup' : ((insertHash number hash hashes).map Prod.fst).Nodup := by
      rw [(hperm.map Prod.fst).nodup_iff, List.map_cons, List.nodup_cons]
      exact ⟨not_mem_keys hnew, hnodup⟩
    obtain ⟨els, hels, hall, hdone⟩ := ih tail.length (by omega) h hnodup' rfl
    refine ⟨(Der.sequence, contents) :: els, by rw [Der.elements_of_next hnext, hels]; rfl, ?_,
      hdone⟩
    rw [List.filterMap_cons_some hentry]
    exact hall.trans ((hperm.append_left _).trans List.perm_middle)

/-- Where no number comes up twice, a number that is found is listed with one hash. -/
lemma filter_eq_of_lookup {hashes : List (UInt8 × Bytes)} (hnodup : (hashes.map Prod.fst).Nodup)
    {n : UInt8} {hash : Bytes} (h : hashes.lookup n = some hash) :
    hashes.filter (fun entry => entry.1 == n) = [(n, hash)] := by
  induction hashes with
  | nil => simp at h
  | cons entry hashes ih =>
    obtain ⟨key, value⟩ := entry
    rw [List.map_cons, List.nodup_cons] at hnodup
    rw [List.lookup_cons] at h
    rw [List.filter_cons]
    by_cases hkey : n = key
    · subst hkey
      rw [beq_self_eq_true] at h
      obtain rfl := Option.some.inj h
      rw [if_pos (by simp), List.filter_eq_nil_iff.mpr]
      rintro ⟨key', value'⟩ hmem heq
      obtain rfl : key' = n := by simpa using heq
      exact hnodup.1 (List.mem_map.mpr ⟨_, hmem, rfl⟩)
    · rw [beq_false_of_ne hkey] at h
      rw [if_neg (by simpa using fun heq : key = n => hkey heq.symm)]
      exact ih hnodup.2 h

/-! ## The layout -/

/-- The parts of EF.SOD that passive authentication looks at. -/
structure Layout where
  /-- The contents of the eContentType. -/
  contentType : Bytes
  /-- The eContent. -/
  content : Bytes
  /-- The contents of the certificates field, empty where there is none. -/
  certificates : Bytes
  /-- The tag and the contents of the sid of the one SignerInfo. -/
  sid : UInt8 × Bytes
  digestAlgorithm : Bytes
  /-- The contents of the signedAttrs field. -/
  signedAttributes : Option Bytes
  signatureAlgorithm : Bytes
  signature : Bytes

/-- The contents of the certificates field and of the signerInfos, behind the content. -/
def signerFields (certificates rest : Bytes) : Option (Bytes × Bytes) :=
  match _ : Der.next rest with
  | none => none
  | some e =>
    if e.tag = 0xA0 then signerFields e.contents e.rest
    else if e.tag = Der.set then some (certificates, e.contents)
    else if e.tag = 0xA1 then signerFields certificates e.rest
    else none
termination_by rest.length
decreasing_by
  all_goals
    have := Der.length_of_next ‹_›
    omega

/-- The contents of the signedAttrs field at the front of `rest`, if there is one, and what
follows. -/
def attributesField (rest : Bytes) : Option Bytes × Bytes :=
  match optionalField 0xA0 rest with
  | some (contents, tail) => (some contents, tail)
  | none => (none, rest)

/-- Walk through EF.SOD. -/
def layout (sod : Bytes) : Option Layout := do
  let cms ← (unwrapSod sod).toOption
  let ci ← Der.expect cms Der.sequence
  let (_, afterOid) ← Der.take ci Der.oid
  let explicit ← Der.expect afterOid 0xA0
  let sd ← Der.expect explicit Der.sequence
  let (_, r1) ← Der.take sd Der.integer
  let (_, r2) ← Der.take r1 Der.set
  let (encap, r3) ← Der.take r2 Der.sequence
  let (contentType, after) ← Der.take encap Der.oid
  let wrapped ← Der.expect after 0xA0
  let content ← Der.expect wrapped Der.octetString
  let (certificates, signers) ← signerFields [] r3
  let si ← Der.expect signers Der.sequence
  let (_, s1) ← Der.take si Der.integer
  let sid ← Der.next s1
  let (digestAlgorithm, s2) ← Der.take sid.rest Der.sequence
  let (signatureAlgorithm, s4) ← Der.take (attributesField s2).2 Der.sequence
  let (signature, _) ← Der.take s4 Der.octetString
  some {
    contentType, content, certificates, sid := (sid.tag, sid.contents), digestAlgorithm
    signedAttributes := (attributesField s2).1, signatureAlgorithm, signature }

/-- The result of the parser, read off the layout. -/
structure Describes (S : SignatureSuite) (L : Layout) (signed : SignedData) : Prop where
  contentType : Der.oidArcs L.contentType = some signed.contentType
  content : L.content = signed.encapContent
  digestAlgo : algoHash L.digestAlgorithm = .ok signed.digestAlgo
  /-- A hash that the signature algorithm pins is the digest algorithm. -/
  signatureAlgo : ∃ pinned, parseSigAlg L.signatureAlgorithm = .ok (signed.sigScheme, pinned) ∧
    (∀ hash, pinned = some hash → hash = signed.digestAlgo) ∧
    signed.signatureHash = signed.digestAlgo
  signature : L.signature = signed.signature
  unsigned : L.signedAttributes = none → signed.signedAttrs = none
  attributes : ∀ field, L.signedAttributes = some field →
    ∃ attrs, parseSignedAttrs field = .ok attrs ∧ signed.signedAttrs = some attrs
  /-- The certificate is one of the field that the sid names. -/
  certificate : ∃ els sid tag contents cert, Der.elements L.certificates = some els ∧
    parseSid L.sid.1 L.sid.2 = .ok sid ∧ (tag, contents) ∈ els ∧
    signed.signerCert = Der.encode Der.sequence contents ∧
    Certificate.parse S signed.signerCert = .ok cert ∧ sid.names S cert = true

variable {S : SignatureSuite}

/-- The certificate that is selected is in the list, parses, and is named by the sid. -/
lemma selectDsc_eq_ok {certs : List Bytes} {sid : SignerId} {cert : Bytes}
    (h : selectDsc S certs sid = .ok cert) :
    cert ∈ certs ∧ ∃ parsed, Certificate.parse S cert = .ok parsed ∧ sid.names S parsed = true := by
  induction certs with
  | nil => simp [selectDsc] at h
  | cons first certs ih =>
    obtain ⟨parsed, hparsed, h⟩ := Outcome.bind_eq_ok.mp h
    split at h
    · rename_i hnames
      obtain rfl := Outcome.ok.inj h
      exact ⟨List.mem_cons_self, parsed, hparsed, hnames⟩
    · obtain ⟨hmem, hcert⟩ := ih h
      exact ⟨List.mem_cons_of_mem _ hmem, hcert⟩

/-- A certificate of the field as `collect_certificates` hands it on. -/
def rewrapped (e : UInt8 × Bytes) : Bytes := Der.sequence :: (pushLen e.2.length ++ e.2)

lemma parseSigner_eq_ok {contentType : List Nat} {content certificates rest : Bytes}
    {els : List (UInt8 × Bytes)} {signed : SignedData}
    (hels : Der.elements certificates = some els)
    (h : parseSigner S contentType content (els.map rewrapped) rest = .ok signed) :
    ∃ certificates' signers els' si signerCert,
      signerFields certificates rest = some (certificates', signers) ∧
      Der.elements certificates' = some els' ∧ SignerInfo.parse signers = .ok si ∧
      selectDsc S (els'.map rewrapped) si.sid = .ok signerCert ∧
      signed = {
        digestAlgo := si.digestAlgo, signatureHash := si.signatureHash
        sigScheme := si.sigScheme, contentType, encapContent := content, signerCert
        signedAttrs := si.signedAttrs, signature := si.signature } := by
  induction hlen : rest.length using Nat.strongRecOn generalizing rest certificates els with
  | _ n ih =>
    rw [parseSigner] at h
    split at h
    · simp at h
    split at h
    · simp at h
    rename_i e hnext
    have hshorter := Der.length_of_next hnext
    have hfields : signerFields certificates rest =
        if e.tag = 0xA0 then signerFields e.contents e.rest
        else if e.tag = Der.set then some (certificates, e.contents)
        else if e.tag = 0xA1 then signerFields certificates e.rest
        else none := by
      rw [signerFields]
      split
      · rename_i hnone
        rw [hnone] at hnext
        simp at hnext
      · rename_i e' hsome
        obtain rfl : e' = e := Option.some.inj (hsome.symm.trans hnext)
        rfl
    rw [hfields]
    split at h
    · rename_i htag
      obtain ⟨certs, hcerts, h⟩ := Outcome.bind_eq_ok.mp h
      obtain ⟨els', hels', rfl⟩ := collectCertificates_eq_ok hcerts
      rw [if_pos htag]
      exact ih e.rest.length (by omega) hels' h rfl
    rename_i hcertificates
    rw [if_neg hcertificates]
    split at h
    · rename_i htag
      obtain ⟨si, hsi, h⟩ := Outcome.bind_eq_ok.mp h
      obtain ⟨signerCert, hselect, h⟩ := Outcome.bind_eq_ok.mp h
      rw [if_pos htag]
      exact ⟨certificates, e.contents, els, si, signerCert, rfl, hels, hsi, hselect,
        (Outcome.ok.inj h).symm⟩
    rename_i hset
    rw [if_neg hset]
    split at h
    · rename_i htag
      rw [if_pos htag]
      exact ih e.rest.length (by omega) hels h rfl
    · simp at h

/-- The signed attributes at the front of `rest`, parsed, and what follows. -/
def signerAttributes (rest : Bytes) : Outcome PassiveAuthError (Option SignedAttrs × Bytes) :=
  match attributesField rest with
  | (some field, tail) => do
    let attrs ← parseSignedAttrs field
    return (some attrs, tail)
  | (none, tail) => return (none, tail)

/-- The hash that the signature is computed with. -/
def signerHash (digestAlgo : HashAlgo) : Option HashAlgo → Outcome PassiveAuthError HashAlgo
  | some hash => if hash ≠ digestAlgo then .err .unsupportedHash else .ok hash
  | none => .ok digestAlgo

lemma signerHash_some_bind {β : Type} (digestAlgo hash : HashAlgo)
    (f : HashAlgo → Outcome PassiveAuthError β) :
    (if hash ≠ digestAlgo then Outcome.err .unsupportedHash >>= f else pure hash >>= f) =
      signerHash digestAlgo (some hash) >>= f := by
  by_cases hpinned : hash = digestAlgo
  · simp [signerHash, hpinned]
  · simp [signerHash, hpinned]

/-- `SignerInfo::parse` as a plain sequence of steps. -/
lemma signerInfo_parse_eq (set : Bytes) :
    SignerInfo.parse set = do
      let si ← Outcome.ofOption .noSigner (Der.expect set Der.sequence)
      let version ← Outcome.ofOption .noSigner (Der.take si Der.integer)
      let sidElement ← Outcome.ofOption .noSigner (Der.next version.2)
      let sid ← parseSid sidElement.tag sidElement.contents
      let digest ← Outcome.ofOption .noSigner (Der.take sidElement.rest Der.sequence)
      let digestAlgo ← algoHash digest.1
      let attrs ← signerAttributes digest.2
      let sigAlg ← Outcome.ofOption .noSigner (Der.take attrs.2 Der.sequence)
      let scheme ← parseSigAlg sigAlg.1
      let signatureHash ← signerHash digestAlgo scheme.2
      let signature ← Outcome.ofOption .noSigner (Der.take sigAlg.2 Der.octetString)
      return ⟨sid, digestAlgo, signatureHash, scheme.1, attrs.1, signature.1⟩ := by
  unfold SignerInfo.parse
  refine bind_congr fun si => bind_congr fun version => bind_congr fun sidElement => ?_
  refine bind_congr fun sid => bind_congr fun digest => bind_congr fun digestAlgo => ?_
  unfold signerAttributes attributesField
  cases hoptional : optionalField 0xA0 digest.2 with
  | none =>
    refine bind_congr fun attrs => bind_congr fun sigAlg => bind_congr fun scheme => ?_
    obtain ⟨sigScheme, _ | hash⟩ := scheme
    · rfl
    · exact signerHash_some_bind _ _ _
  | some pair =>
    obtain ⟨field, tail⟩ := pair
    cases hattrs : parseSignedAttrs field with
    | ok attrs =>
      simp only [hattrs, Outcome.ok_bind, Outcome.pure_eq]
      refine bind_congr fun sigAlg => bind_congr fun scheme => ?_
      obtain ⟨sigScheme, _ | hash⟩ := scheme
      · rfl
      · exact signerHash_some_bind _ _ _
    | err e => simp [hattrs]
    | panic => simp [hattrs]

lemma signerAttributes_eq_ok {rest tail : Bytes} {signedAttrs : Option SignedAttrs}
    (h : signerAttributes rest = .ok (signedAttrs, tail)) :
    tail = (attributesField rest).2 ∧ ((attributesField rest).1 = none → signedAttrs = none) ∧
      ∀ field, (attributesField rest).1 = some field →
        ∃ attrs, parseSignedAttrs field = .ok attrs ∧ signedAttrs = some attrs := by
  unfold signerAttributes at h
  rcases hfield : attributesField rest with ⟨_ | field, tail'⟩
  · rw [hfield] at h
    obtain ⟨rfl, rfl⟩ := Prod.mk.inj (Outcome.ok.inj h)
    exact ⟨rfl, fun _ => rfl, by simp⟩
  · rw [hfield] at h
    obtain ⟨attrs, hparse, h⟩ := Outcome.bind_eq_ok.mp h
    obtain ⟨rfl, rfl⟩ := Prod.mk.inj (Outcome.ok.inj h)
    refine ⟨rfl, by simp, fun field' hfield' => ?_⟩
    obtain rfl := Option.some.inj hfield'
    exact ⟨attrs, hparse, rfl⟩

/-- A hash that the signature algorithm pins is the digest algorithm, and the signature is computed
with the digest algorithm in any case. -/
lemma signerHash_eq_ok {digestAlgo signatureHash : HashAlgo} {pinned : Option HashAlgo}
    (h : signerHash digestAlgo pinned = .ok signatureHash) :
    (∀ hash, pinned = some hash → hash = digestAlgo) ∧ signatureHash = digestAlgo := by
  cases pinned with
  | none => exact ⟨by simp, (Outcome.ok.inj h).symm⟩
  | some hash =>
    rw [signerHash] at h
    split at h
    · simp at h
    · rename_i heq
      rw [not_not] at heq
      obtain rfl := Outcome.ok.inj h
      exact ⟨fun hash' hhash' => by rw [← Option.some.inj hhash', heq], heq⟩

/-- Where `SignedData::parse` succeeds there is a layout, and the result is read off it. -/
theorem exists_layout {sod : Bytes} {signed : SignedData} (h : SignedData.parse S sod = .ok signed) :
    ∃ L, layout sod = some L ∧ Describes S L signed := by
  obtain ⟨cms, hcms, h⟩ := Outcome.bind_eq_ok.mp h
  obtain ⟨ci, hci, h⟩ := Outcome.bind_eq_ok.mp h
  obtain ⟨⟨oid, afterOid⟩, hoid, h⟩ := Outcome.bind_eq_ok.mp h
  dsimp only at h
  split at h
  · simp at h
  obtain ⟨explicit, hexplicit, h⟩ := Outcome.bind_eq_ok.mp h
  obtain ⟨sd, hsd, h⟩ := Outcome.bind_eq_ok.mp h
  obtain ⟨⟨version, r1⟩, hversion, h⟩ := Outcome.bind_eq_ok.mp h
  obtain ⟨⟨algorithms, r2⟩, halgorithms, h⟩ := Outcome.bind_eq_ok.mp h
  obtain ⟨⟨encap, r3⟩, hencap, h⟩ := Outcome.bind_eq_ok.mp h
  obtain ⟨⟨contentType, content⟩, hcontent, h⟩ := Outcome.bind_eq_ok.mp h
  obtain ⟨⟨ctype, after⟩, hctype, hcontent⟩ := Outcome.bind_eq_ok.mp hcontent
  obtain ⟨arcs, harcs, hcontent⟩ := Outcome.bind_eq_ok.mp hcontent
  obtain ⟨wrapped, hwrapped, hcontent⟩ := Outcome.bind_eq_ok.mp hcontent
  obtain ⟨octets, hoctets, hcontent⟩ := Outcome.bind_eq_ok.mp hcontent
  obtain ⟨rfl, rfl⟩ := Prod.mk.inj (Outcome.ok.inj hcontent)
  obtain ⟨certificates, signers, els, info, signerCert, hfields, hels, hinfo, hselect, rfl⟩ :=
    parseSigner_eq_ok Der.elements_nil h
  rw [signerInfo_parse_eq] at hinfo
  obtain ⟨si, hsi, hinfo⟩ := Outcome.bind_eq_ok.mp hinfo
  obtain ⟨⟨siVersion, s1⟩, hsiVersion, hinfo⟩ := Outcome.bind_eq_ok.mp hinfo
  obtain ⟨sidElement, hsidElement, hinfo⟩ := Outcome.bind_eq_ok.mp hinfo
  obtain ⟨sid, hsid, hinfo⟩ := Outcome.bind_eq_ok.mp hinfo
  obtain ⟨⟨digestAlgorithm, s2⟩, hdigestAlgorithm, hinfo⟩ := Outcome.bind_eq_ok.mp hinfo
  obtain ⟨digestAlgo, hdigestAlgo, hinfo⟩ := Outcome.bind_eq_ok.mp hinfo
  obtain ⟨⟨signedAttrs, s3⟩, hattrs, hinfo⟩ := Outcome.bind_eq_ok.mp hinfo
  obtain ⟨⟨signatureAlgorithm, s4⟩, hsignatureAlgorithm, hinfo⟩ := Outcome.bind_eq_ok.mp hinfo
  obtain ⟨⟨sigScheme, pinned⟩, hscheme, hinfo⟩ := Outcome.bind_eq_ok.mp hinfo
  obtain ⟨signatureHash, hsignatureHash, hinfo⟩ := Outcome.bind_eq_ok.mp hinfo
  obtain ⟨⟨signature, last⟩, hsignature, hinfo⟩ := Outcome.bind_eq_ok.mp hinfo
  obtain rfl := Outcome.ok.inj hinfo
  obtain ⟨rfl, hunsigned, hattributes⟩ := signerAttributes_eq_ok hattrs
  obtain ⟨hpinned, hhash⟩ := signerHash_eq_ok hsignatureHash
  obtain ⟨hmem, cert, hcert, hnames⟩ := selectDsc_eq_ok hselect
  obtain ⟨⟨tag, contents⟩, hentry, rfl⟩ := List.mem_map.mp hmem
  refine ⟨⟨ctype, octets, certificates, (sidElement.tag, sidElement.contents), digestAlgorithm,
    (attributesField s2).1, signatureAlgorithm, signature⟩, ?_, ?_⟩
  · simp only [Outcome.ofOption_eq_ok] at hci hoid hexplicit hsd hversion halgorithms hencap
    simp only [Outcome.ofOption_eq_ok] at hctype hwrapped hoctets hsi hsiVersion hsidElement
    simp only [Outcome.ofOption_eq_ok] at hdigestAlgorithm hsignatureAlgorithm hsignature
    refine Option.bind_eq_some_iff.mpr ⟨cms, Outcome.toOption_eq_some.mpr hcms, ?_⟩
    refine Option.bind_eq_some_iff.mpr ⟨_, hci, Option.bind_eq_some_iff.mpr ⟨_, hoid, ?_⟩⟩
    refine Option.bind_eq_some_iff.mpr ⟨_, hexplicit, Option.bind_eq_some_iff.mpr ⟨_, hsd, ?_⟩⟩
    refine Option.bind_eq_some_iff.mpr ⟨_, hversion, ?_⟩
    refine Option.bind_eq_some_iff.mpr ⟨_, halgorithms, ?_⟩
    refine Option.bind_eq_some_iff.mpr ⟨_, hencap, Option.bind_eq_some_iff.mpr ⟨_, hctype, ?_⟩⟩
    refine Option.bind_eq_some_iff.mpr ⟨_, hwrapped, Option.bind_eq_some_iff.mpr ⟨_, hoctets, ?_⟩⟩
    refine Option.bind_eq_some_iff.mpr ⟨_, hfields, Option.bind_eq_some_iff.mpr ⟨_, hsi, ?_⟩⟩
    refine Option.bind_eq_some_iff.mpr ⟨_, hsiVersion, ?_⟩
    refine Option.bind_eq_some_iff.mpr ⟨_, hsidElement, ?_⟩
    refine Option.bind_eq_some_iff.mpr ⟨_, hdigestAlgorithm, ?_⟩
    refine Option.bind_eq_some_iff.mpr ⟨_, hsignatureAlgorithm, ?_⟩
    exact Option.bind_eq_some_iff.mpr ⟨_, hsignature, rfl⟩
  · exact ⟨Outcome.ofOption_eq_ok.mp harcs, rfl, hdigestAlgo, ⟨pinned, hscheme, hpinned, hhash⟩, rfl,
      hunsigned, hattributes, els, sid, tag, contents, cert, hels, hsid, hentry,
      encode_of_parse hcert, hcert, hnames⟩

end Passive

end Dmrtd
