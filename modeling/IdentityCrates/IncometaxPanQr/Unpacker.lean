import IdentityCrates.Lib.Slice
import IdentityCrates.IncometaxPanQr.Values

/-!
# The bit unpacker of the PAN Secure QR

`unpacker.rs`.  The scanned text is groups of four digits, each a number of thirteen bits, and
`BitUnpacker` turns the numbers back into bytes: `output` holds the whole bytes, `a` the bits of the
byte under construction and `b` their number.

`bit_unpack` works in three phases, each a definition here: a partial byte is topped up if there are
enough bits (`topUp`), whole bytes are drained (`drain`), and the bits that remain are kept
(`keep`).
-/

namespace IncometaxPanQr

open Octets Rust Text

/-- `BitUnpacker`. -/
structure BitUnpacker where
  output : Bytes
  a : UInt8
  b : Nat
  deriving DecidableEq, Repr

namespace BitUnpacker

/-- `new`. -/
def new : BitUnpacker := ⟨[], 0, 0⟩

/-- Fill up the partial byte, if there is one and the `v1` bits of `v` are enough to do so.  The
counts are signed in the source and never become negative. -/
def topUp (u : BitUnpacker) (v v1 : Nat) : BitUnpacker × Nat × Nat :=
  if u.b > 0 ∧ u.b + v1 ≥ 8 then
    let v3 := (u.a.toNat ||| v <<< u.b) &&& 0xFF
    (⟨u.output ++ [UInt8.ofNat v3], 0, 0⟩, v >>> (8 - u.b), v1 - (8 - u.b))
  else (u, v, v1)

/-- `while v1 / 8 > 0`: move whole bytes to the output. -/
def drain (u : BitUnpacker) (v v1 : Nat) : BitUnpacker × Nat × Nat :=
  if v1 / 8 > 0 then
    drain { u with output := u.output ++ [UInt8.ofNat (v &&& 0xFF)] } (v >>> 8) (v1 - 8)
  else (u, v, v1)
termination_by v1
decreasing_by omega

/-- Keep the bits that are left. -/
def keep (u : BitUnpacker) (v v1 : Nat) : BitUnpacker :=
  if v1 > 0 then
    { u with a := UInt8.ofNat ((v <<< u.b ||| u.a.toNat) &&& 0xFF), b := u.b + v1 }
  else u

/-- `bit_unpack` on a value masked to its width. -/
def feed (u : BitUnpacker) (v v1 : Nat) : BitUnpacker :=
  let (u, v, v1) := u.topUp v v1
  let (u, v, v1) := u.drain v v1
  u.keep v v1

/-- `bit_unpack`: feed the low `v1` bits of `v`. -/
def bitUnpack (v v1 : UInt32) : Proc BitUnpacker PanQrError Unit :=
  if ¬ (1 ≤ v1.toNat ∧ v1.toNat ≤ 0x20) then Proc.fail (.invalidBitCount v1.toNat)
  else Proc.modify fun u => u.feed (v.toNat &&& ((1 <<< v1.toNat) - 1)) v1.toNat

end BitUnpacker

/-- `MAX_CHUNK_VALUE`. -/
def maxChunkValue : Nat := (1 <<< 13) - 1

/-- The value of one group of characters. -/
def chunkValue (chunk : Str) : Outcome PanQrError Nat :=
  if chunk.length ≠ 4 then .err (.malformedChunk chunk "chunk must be exactly 4 characters")
  else if ¬ chunk.all Char.isDigit then
    .err (.malformedChunk chunk "chunk must be ASCII digits")
  else do
    let value ← Outcome.ofOption (.invalidChunk chunk) (parseUnsigned (2 ^ 32 - 1) chunk)
    if value > maxChunkValue then
      .err (.malformedChunk chunk "chunk value exceeds the 13-bit maximum (8191)")
    else return value

/-- The loop of `unpack_scanned_string` over the groups that are left. -/
def unpackChunks : List Str → Proc BitUnpacker PanQrError Unit
  | [] => pure ()
  | chunk :: rest => do
    let value ← Proc.lift (chunkValue chunk)
    BitUnpacker.bitUnpack (UInt32.ofNat value) 13
    unpackChunks rest

/-- `unpack_scanned_string`. -/
def unpackScannedString (scanned : Str) : Outcome PanQrError Bytes :=
  match unpackChunks (chunks 4 scanned) BitUnpacker.new with
  | (.ok (), unpacker) => .ok unpacker.output
  | (.err e, _) => .err e
  | (.panic, _) => .panic

end IncometaxPanQr
