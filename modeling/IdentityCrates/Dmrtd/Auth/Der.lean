import IdentityCrates.Lib.Octets

/-!
# The DER reader

`der.rs`: a small strict reader of DER, for the structures that the authentication paths walk.  It
parses bytes off a chip, so it fails on anything malformed and never panics.

An element comes apart into its tag, its contents and what follows it.  A loop over a sequence of
elements ends because what follows an element is shorter than the input (`length_of_next`).
-/

namespace Dmrtd

open Octets

namespace Der

/-! ## Tags -/

/-- `INTEGER`. -/
def integer : UInt8 := 0x02

/-- `BIT_STRING`. -/
def bitString : UInt8 := 0x03

/-- `OCTET_STRING`. -/
def octetString : UInt8 := 0x04

/-- `OID`. -/
def oid : UInt8 := 0x06

/-- `SEQUENCE`. -/
def sequence : UInt8 := 0x30

/-- `SET`. -/
def set : UInt8 := 0x31

/-! ## Elements -/

/-- An element, with what follows it in the input. -/
structure Element where
  tag : UInt8
  contents : Bytes
  rest : Bytes
  deriving DecidableEq, Repr

/-- The length of an element and what follows the length octets, which begin with `firstLen`.  The
long form must be minimal: no leading zero, and only for what the short form cannot hold. -/
def nextLength (firstLen : UInt8) (afterFirst : Bytes) : Option (Nat × Bytes) :=
  if firstLen &&& 0x80 = 0 then some (firstLen.toNat, afterFirst)
  else
    let n := (firstLen &&& 0x7f).toNat
    -- `80` alone is the indefinite form, which DER does not have
    if n = 0 ∨ n > 4 ∨ afterFirst.length < n then none
    else
      let lenBytes := afterFirst.take n
      if lenBytes.head? = some 0 then none
      else if ofBE lenBytes < 0x80 then none
      else some (ofBE lenBytes, afterFirst.drop n)

/-- `next`: split the input into the first element and the rest. -/
def next : Bytes → Option Element
  | tag :: firstLen :: afterFirst => do
    let (len, body) ← nextLength firstLen afterFirst
    if body.length < len then none else some ⟨tag, body.take len, body.drop len⟩
  | _ => none

/-- `take`: the contents of the next element, which must carry `tag`, and what follows it. -/
def take (input : Bytes) (tag : UInt8) : Option (Bytes × Bytes) := do
  let e ← next input
  if e.tag = tag then some (e.contents, e.rest) else none

/-- `expect`: the contents of the one element of type `tag` that spans all of the input. -/
def expect (input : Bytes) (tag : UInt8) : Option Bytes := do
  let e ← next input
  if e.tag = tag ∧ e.rest = [] then some e.contents else none

lemma length_of_nextLength {firstLen : UInt8} {afterFirst body : Bytes} {len : Nat}
    (h : nextLength firstLen afterFirst = some (len, body)) : body.length ≤ afterFirst.length := by
  unfold nextLength at h
  dsimp only at h
  split at h
  · rw [← (Prod.mk.inj (Option.some.inj h)).2]
  · split at h
    · simp at h
    · split at h
      · simp at h
      · split at h
        · simp at h
        · rw [← (Prod.mk.inj (Option.some.inj h)).2, List.length_drop]
          omega

/-- What follows an element is shorter than the input by the tag and the length octets at least. -/
lemma length_of_next {input : Bytes} {e : Element} (h : next input = some e) :
    e.rest.length + 2 ≤ input.length := by
  match input, h with
  | tag :: firstLen :: afterFirst, h =>
    obtain ⟨⟨len, body⟩, hlen, h⟩ := Option.bind_eq_some_iff.mp h
    have hbody := length_of_nextLength hlen
    dsimp only at h
    split at h
    · simp at h
    · rw [← Option.some.inj h]
      simp only [List.length_drop, List.length_cons]
      omega
  | [], h => simp [next] at h
  | [_], h => simp [next] at h

lemma lt_of_nextLength {firstLen : UInt8} {afterFirst body : Bytes} {len : Nat}
    (h : nextLength firstLen afterFirst = some (len, body)) : len < 2 ^ 32 := by
  unfold nextLength at h
  dsimp only at h
  split at h
  · rw [← (Prod.mk.inj (Option.some.inj h)).1]
    exact firstLen.toNat_lt.trans (by decide)
  · split at h
    · simp at h
    rename_i hcount
    split at h
    · simp at h
    split at h
    · simp at h
    rw [← (Prod.mk.inj (Option.some.inj h)).1]
    refine (ofBE_lt _).trans_le ?_
    calc 256 ^ (afterFirst.take (firstLen &&& 0x7f).toNat).length
        ≤ 256 ^ 4 := Nat.pow_le_pow_right (by decide) (by rw [List.length_take]; omega)
      _ = 2 ^ 32 := by norm_num

/-- The contents of an element fill no more than four length octets. -/
lemma length_contents_of_next {input : Bytes} {e : Element} (h : next input = some e) :
    e.contents.length < 2 ^ 32 := by
  match input, h with
  | tag :: firstLen :: afterFirst, h =>
    obtain ⟨⟨len, body⟩, hlen, h⟩ := Option.bind_eq_some_iff.mp h
    dsimp only at h
    split at h
    · simp at h
    · rw [← Option.some.inj h]
      have hlt := lt_of_nextLength hlen
      rw [List.length_take]
      omega
  | [], h => simp [next] at h
  | [_], h => simp [next] at h

lemma take_eq_some {input contents rest : Bytes} {tag : UInt8} :
    take input tag = some (contents, rest) ↔ next input = some ⟨tag, contents, rest⟩ := by
  rw [take, Option.bind_eq_bind, Option.bind_eq_some_iff]
  constructor
  · rintro ⟨⟨t, c, r⟩, hnext, h⟩
    dsimp only at h
    split at h
    · rename_i ht
      obtain ⟨rfl, rfl⟩ := Prod.mk.inj (Option.some.inj h)
      rw [hnext, ht]
    · simp at h
  · intro h
    exact ⟨_, h, by simp⟩

lemma length_of_take {input contents rest : Bytes} {tag : UInt8}
    (h : take input tag = some (contents, rest)) : rest.length + 2 ≤ input.length :=
  length_of_next (take_eq_some.mp h)

/-! ## Object identifiers -/

/-- The loop of `oid_arcs` over the contents: the subidentifiers read so far, the value of the one
being read, and whether the next byte is its first, when none is `pending`. -/
def subidentifiers (subids : List Nat) (value : Nat) (fresh : Bool) : Bytes → Option (List Nat)
  -- a trailing continuation byte means that the encoding was truncated
  | [] => if fresh then some subids else none
  | b :: contents =>
    -- a subidentifier that opens with `80` has a leading zero, which DER forbids
    if fresh ∧ b = 0x80 then none
    else
      let value := value * 128 + (b &&& 0x7f).toNat
      if 2 ^ 64 ≤ value then none
      else if b &&& 0x80 = 0 then subidentifiers (subids ++ [value]) 0 true contents
      else subidentifiers subids value false contents

/-- `oid_arcs`: the arcs of an object identifier.  The first subidentifier packs the first two. -/
def oidArcs (contents : Bytes) : Option (List Nat) := do
  match ← subidentifiers [] 0 true contents with
  | [] => none
  | first :: subids =>
    if first < 80 then some (first / 40 :: first % 40 :: subids)
    else some (2 :: (first - 80) :: subids)

/-! ## Bit strings -/

/-- `bit_string_bytes`: the payload of a BIT STRING of whole bytes. -/
def bitStringBytes : Bytes → Option Bytes
  | unused :: bits => if unused = 0 then some bits else none
  | [] => none

example : oidArcs [0x60, 0x86, 0x48, 0x01, 0x65, 0x03, 0x04, 0x02, 0x01] =
    some [2, 16, 840, 1, 101, 3, 4, 2, 1] := by decide

end Der

end Dmrtd
