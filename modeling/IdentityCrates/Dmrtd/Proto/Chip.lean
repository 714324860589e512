import IdentityCrates.Dmrtd.Proto.MrtdSm

/-!
# The chip's side of secure messaging

An ICAO 9303-11 chip, as the terminal's secure messaging is specified against: it is not part of the
source.  The chip holds the same cipher and counter as the terminal.

On a command it advances the counter, reads the command off the wire, verifies the `DO'8E'` over
counter, padded header and the objects before it, decrypts the `DO'85'` or `DO'87'`, and reads the
expected length from the `DO'97'`.  On its answer it advances the counter again and wraps the data
in a `DO'87'` or `DO'85'`, the status in a `DO'99'`, and the MAC over both in a `DO'8E'`.
-/

namespace Dmrtd

open Rust Octets

/-- A chip with an open secure messaging session. -/
structure Chip where
  cipher : SmCipher
  ssc : Ssc

namespace Chip

/-- The chip with its counter advanced by one. -/
def advance (chip : Chip) : Chip := { chip with ssc := chip.ssc.increment }

/-- The block size of the chip's cipher. -/
def blockSize (chip : Chip) : Nat := chip.cipher.cipherAlgorithm.blockSize

/-! ## Commands -/

/-- The data object at the front of `xs` if it has one of the tags `tags`, and what follows it.  A
malformed object is refused. -/
def takeDo (tags : List UInt8) : Bytes → Option (Option DecodedTv × Bytes)
  | [] => some (none, [])
  | b :: tl =>
    if b ∈ tags then
      (Tlv.decode (b :: tl)).toOption.map fun tv => (some tv, (b :: tl).drop tv.encodedLen)
    else some (none, b :: tl)

/-- The cryptogram of a data object: behind the padding-content indicator in a `DO'87'`. -/
def cryptogram (tv : DecodedTv) : Option Bytes :=
  if tv.tag.value = 0x87 then
    match tv.value with
    | 0x01 :: edata => some edata
    | _ => none
  else some tv.value

/-- The plain data field; empty when there is no data object. -/
def openData (chip : Chip) : Option DecodedTv → Option Bytes
  | none => some []
  | some tv => do
    let edata ← cryptogram tv
    let padded ← (chip.cipher.decrypt edata (some chip.ssc)).toOption
    (Iso9797.unpad padded chip.blockSize).toOption

/-- The expected length: absent, the `00` and `0000` maxima, or the number itself. -/
def readNe : Option DecodedTv → Nat
  | none => 0
  | some tv => if tv.value = [0] then 256 else if tv.value = [0, 0] then 65536 else ofBE tv.value

/-- A header with the secure messaging bits of the class byte cleared. -/
def plainHeader : Bytes → Bytes
  | cla :: rest => (cla &&& 0xF3) :: rest
  | [] => []

/-- Verify a protected command and recover the plain one. -/
def unwrap (chip : Chip) (apdu : CommandApdu.Wire) : Option CommandApdu.Wire := do
  guard (apdu.header.headD 0 &&& Cla.smHeaderAuthn = Cla.smHeaderAuthn)
  let (dataTv, rest₁) ← takeDo [0x85, 0x87] apdu.body
  let (neTv, rest₂) ← takeDo [0x97] rest₁
  let (macTv, rest₃) ← takeDo [0x8E] rest₂
  let macTv ← macTv
  guard (rest₃ = [])
  let covered := apdu.body.take (apdu.body.length - rest₂.length)
  let header ← (Iso9797.pad apdu.header chip.blockSize).toOption
  let n ← (Iso9797.pad (chip.ssc.toBytes ++ (header ++ covered)) chip.blockSize).toOption
  let cc ← (chip.cipher.mac n).toOption
  guard (cc = macTv.value)
  let data ← chip.openData dataTv
  return ⟨plainHeader apdu.header, data, readNe neTv⟩

/-- Receive a command: advance the counter, then read and verify. -/
def receive (wire : Bytes) (chip : Chip) : Option CommandApdu.Wire × Chip :=
  ((CommandApdu.parse wire).bind chip.advance.unwrap, chip.advance)

/-! ## Answers -/

/-- The data object with tag `tag`, as far as a three-byte length can describe it. -/
def encodeDo (tag : Nat) (value : Bytes) : Option Bytes :=
  (Tlv.encode tag value : Outcome TlvError Bytes).toOption

/-- Wrap the answer data: nothing, a `DO'85'`, or a `DO'87'` with padding indicator `01`. -/
def sealData (chip : Chip) (useDo85 : Bool) (data : Bytes) : Option Bytes :=
  if data = [] then some []
  else do
    let padded ← (Iso9797.pad data chip.blockSize).toOption
    let edata ← (chip.cipher.encrypt padded (some chip.ssc)).toOption
    if useDo85 then encodeDo 0x85 edata else encodeDo 0x87 (0x01 :: edata)

/-- The protected answer with its status word. -/
def wrap (chip : Chip) (useDo85 : Bool) (sw : StatusWord) (data : Bytes) : Option Bytes := do
  let dataDo ← chip.sealData useDo85 data
  let do99 ← encodeDo 0x99 sw.toBytes
  let k ← (Iso9797.pad (chip.ssc.toBytes ++ (dataDo ++ do99)) chip.blockSize).toOption
  let cc ← (chip.cipher.mac k).toOption
  let do8e ← encodeDo 0x8E cc
  return dataDo ++ do99 ++ do8e ++ sw.toBytes

/-- Answer a command: advance the counter, then wrap. -/
def respond (useDo85 : Bool) (sw : StatusWord) (data : Bytes) (chip : Chip) :
    Option Bytes × Chip :=
  (chip.advance.wrap useDo85 sw data, chip.advance)

end Chip

end Dmrtd
