import IdentityCrates.Dmrtd.Passport
import IdentityCrates.Dmrtd.Proto.Card

/-!
# A card with files

The applications of a travel document, after ISO 7816-4 and ICAO 9303-10: elementary files with short
identifiers under the master file and under the eMRTD application, and the key of Active
Authentication.  It is not part of the source.

The card sends what it is asked for, up to a number of bytes of its own choice in one answer.  Without
access EF.CardAccess is all that there is on it.
-/

namespace Dmrtd

open Rust Octets

/-- An elementary file: a TLV object, and possibly bytes behind it. -/
structure ElementaryFile where
  bytes : Bytes
  header : DecodedTl
  decodes : Tlv.decodeTagAndLength bytes = .ok header
  whole : header.encodedLen + header.length.value ≤ bytes.length

/-- A file that is an object with nothing behind it. -/
def ElementaryFile.ofObject (bytes : Bytes) (header : DecodedTl)
    (h : Tlv.decodeTagAndLength bytes = .ok header ∧
      header.encodedLen + header.length.value = bytes.length) : ElementaryFile :=
  ⟨bytes, header, h.1, h.2.le⟩

/-- The length of the object in a file, with its header. -/
def ElementaryFile.size (file : ElementaryFile) : Nat :=
  file.header.encodedLen + file.header.length.value

/-- The object in a file. -/
def ElementaryFile.object (file : ElementaryFile) : Bytes := file.bytes.take file.size

/-- What is stored on a card: its files, how much of one it sends in an answer, and what it signs a
challenge with. -/
structure CardContents where
  file : SelectedDf → UInt8 → Option ElementaryFile
  chunk : Nat
  le_chunk : 8 ≤ chunk
  chunk_le : chunk ≤ 0x8000
  sign : Bytes → Option Bytes
  length_sign : ∀ challenge response, sign challenge = some response → response.length ≤ 65536

/-- What is stored on a card as far as it is open to everybody: EF.CardAccess. -/
def CardContents.public (contents : CardContents) : CardContents where
  file df sfi := if df = .mf ∧ sfi = efCardAccessSfi then contents.file df sfi else none
  chunk := contents.chunk
  le_chunk := contents.le_chunk
  chunk_le := contents.chunk_le
  sign _ := none
  length_sign _ _ h := by cases h

/-- A card with files, the dedicated file that is selected and the file that is being read. -/
structure CardFiles where
  contents : CardContents
  df : SelectedDf
  current : Option ElementaryFile

namespace CardFiles

def fileNotFound : StatusWord := ⟨0x6A, 0x82⟩
def noCurrentFile : StatusWord := ⟨0x69, 0x86⟩
def offsetOutside : StatusWord := ⟨0x6B, 0x00⟩
def conditionsNotSatisfied : StatusWord := ⟨0x69, 0x85⟩
def unknownInstruction : StatusWord := ⟨0x6D, 0x00⟩

/-- At most `ne` bytes of `file` from `offset`. -/
def piece (contents : CardContents) (file : ElementaryFile) (offset ne : Nat) : Bytes :=
  (file.bytes.drop offset).take (min ne contents.chunk)

/-- SELECT of the master file by its identifier or of the eMRTD application by its name. -/
def select (p1 : UInt8) (body : Bytes) (self : CardFiles) : StatusWord × CardFiles :=
  if p1 = SelectFileP1.byId ∧ body = [0x3F, 0x00] then
    (StatusWord.success, { self with df := .mf, current := none })
  else if p1 = SelectFileP1.byDfName ∧ body = aid then
    (StatusWord.success, { self with df := .df1, current := none })
  else (fileNotFound, self)

/-- The answer to a read at `offset` of a file. -/
def slice (contents : CardContents) (file : ElementaryFile) (offset ne : Nat) :
    StatusWord × Bytes :=
  if offset < file.bytes.length then (StatusWord.success, piece contents file offset ne)
  else (offsetOutside, [])

/-- READ BINARY with a short identifier in P1, which makes the file the current one, or with a 15-bit
offset into the current file. -/
def readBinary (p1 p2 : UInt8) (ne : Nat) (self : CardFiles) : (StatusWord × Bytes) × CardFiles :=
  if p1 &&& 0x80 = 0x80 then
    match self.contents.file self.df (p1 &&& 0x1F) with
    | some file => (slice self.contents file p2.toNat ne, { self with current := some file })
    | none => ((fileNotFound, []), self)
  else
    match self.current with
    | some file => (slice self.contents file (p1.toNat * 256 + p2.toNat) ne, self)
    | none => ((noCurrentFile, []), self)

/-- READ BINARY with the offset in a `DO'54'`, answered in a `DO'53'`. -/
def readBinaryExt (body : Bytes) (ne : Nat) (self : CardFiles) : (StatusWord × Bytes) × CardFiles :=
  match self.current, (Tlv.decode body).toOption with
  | some file, some tv =>
    let answer := slice self.contents file (ofBE tv.value) ne
    match (Tlv.encode 0x53 answer.2 : Outcome TlvError Bytes).toOption with
    | some wrapped => ((answer.1, if answer.2 = [] then [] else wrapped), self)
    | none => ((offsetOutside, []), self)
  | _, _ => ((noCurrentFile, []), self)

/-- INTERNAL AUTHENTICATE. -/
def internalAuthenticate (body : Bytes) (self : CardFiles) : StatusWord × Bytes :=
  match self.contents.sign body with
  | some response => (StatusWord.success, response)
  | none => (conditionsNotSatisfied, [])

/-- Serve one command. -/
def serve (self : CardFiles) (wire : CommandApdu.Wire) : (StatusWord × Bytes) × CardFiles :=
  match wire.header with
  | [_, ins, p1, p2] =>
    if ins = Ins.selectFile then
      (((select p1 wire.body self).1, []), (select p1 wire.body self).2)
    else if ins = Ins.readBinary then readBinary p1 p2 wire.ne self
    else if ins = Ins.readBinaryExt then readBinaryExt wire.body wire.ne self
    else if ins = Ins.internalAuthenticate then (internalAuthenticate wire.body self, self)
    else ((unknownInstruction, []), self)
  | _ => ((unknownInstruction, []), self)

lemma length_piece_le (contents : CardContents) (file : ElementaryFile) (offset ne : Nat) :
    (piece contents file offset ne).length ≤ 0x8000 := by
  have hchunk := contents.chunk_le
  rw [piece, List.length_take]
  omega

lemma length_slice_le (contents : CardContents) (file : ElementaryFile) (offset ne : Nat) :
    (slice contents file offset ne).2.length ≤ 0x8000 := by
  unfold slice
  split
  · exact length_piece_le contents file offset ne
  · exact Nat.zero_le _

lemma length_readBinary_le (p1 p2 : UInt8) (ne : Nat) (self : CardFiles) :
    (readBinary p1 p2 ne self).1.2.length ≤ 0x8000 := by
  unfold readBinary
  split
  · split
    · exact length_slice_le _ _ _ _
    · exact Nat.zero_le _
  · split
    · exact length_slice_le _ _ _ _
    · exact Nat.zero_le _

lemma length_readBinaryExt_le (body : Bytes) (ne : Nat) (self : CardFiles) :
    (readBinaryExt body ne self).1.2.length ≤ 0x8005 := by
  unfold readBinaryExt
  split
  · rename_i file tv _ _
    have hslice := length_slice_le self.contents file (ofBE tv.value) ne
    dsimp only
    split
    · rename_i wrapped hwrapped
      have hlen := Tlv.length_encode_le (by decide) (Outcome.toOption_eq_some.mp hwrapped)
      dsimp only
      split
      · exact Nat.zero_le _
      · omega
    · exact Nat.zero_le _
  · exact Nat.zero_le _

lemma length_serve_le (self : CardFiles) (wire : CommandApdu.Wire) :
    (self.serve wire).1.2.length ≤ 65536 := by
  unfold serve
  split
  · rename_i p1 p2 _
    repeat' split
    · exact Nat.zero_le _
    · exact (length_readBinary_le p1 p2 wire.ne self).trans (by decide)
    · exact (length_readBinaryExt_le wire.body wire.ne self).trans (by decide)
    · unfold internalAuthenticate
      split
      · exact self.contents.length_sign _ _ ‹_›
      · exact Nat.zero_le _
    · exact Nat.zero_le _
  · exact Nat.zero_le _

/-- The card as those without access see it. -/
def shut (self : CardFiles) : CardFiles := { self with contents := self.contents.public }

/-- Serve one command without access. -/
def serveClosed (self : CardFiles) (wire : CommandApdu.Wire) : (StatusWord × Bytes) × CardFiles :=
  let served := self.shut.serve wire
  (served.1, { served.2 with contents := self.contents })

instance : CardApplication CardFiles where
  serve wire self := self.serve wire
  serveClosed wire self := self.serveClosed wire
  close self := { self with current := none }
  length_serve wire self := self.length_serve_le wire

end CardFiles

end Dmrtd
