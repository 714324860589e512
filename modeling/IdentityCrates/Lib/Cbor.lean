import IdentityCrates.Lib.Octets
import IdentityCrates.Lib.Utf8

/-!
# CBOR values

The data model of CBOR as a tree (`Cbor.Value`), its deterministic encoding (`Cbor.encode`) and a
reader of it (`Cbor.decode`).  An item is a head, which names a major type and an argument in the
shortest of five forms, and behind it whatever the argument counts.

Reading undoes writing whatever follows (`decode_encode`), so no encoding is the beginning of
another one and different values have different encodings (`encode_inj`).  Floats are kept as their
bit pattern and written in the eight-byte form.
-/

namespace Cbor

open Octets Text

/-- A CBOR value.  `other` is a value of a kind that the tree has no constructor of its own for,
with its description. -/
inductive Value where
  | integer (i : Int)
  | bytes (bs : Bytes)
  | float (bits : UInt64)
  | text (s : Str)
  | bool (b : Bool)
  | null
  | tag (tag : UInt64) (value : Value)
  | array (items : List Value)
  | map (entries : List (Value × Value))
  | other (kind : Str)
  deriving Repr

/-! ## Heads -/

/-- The head of an item: the major type in the three high bits of the first byte, and the argument
in its five low bits or in the one, two, four or eight bytes behind it. -/
def head (major n : Nat) : Option Bytes :=
  if n < 24 then some [UInt8.ofNat (32 * major + n)]
  else if n < 256 ^ 1 then some (UInt8.ofNat (32 * major + 24) :: toBE 1 n)
  else if n < 256 ^ 2 then some (UInt8.ofNat (32 * major + 25) :: toBE 2 n)
  else if n < 256 ^ 4 then some (UInt8.ofNat (32 * major + 26) :: toBE 4 n)
  else if n < 256 ^ 8 then some (UInt8.ofNat (32 * major + 27) :: toBE 8 n)
  else none

/-- The bytes of an argument that does not fit into the first byte. -/
def argumentWidth : Nat → Option Nat
  | 24 => some 1
  | 25 => some 2
  | 26 => some 4
  | 27 => some 8
  | _ => none

/-- Read a head: the major type, the low bits of the first byte, the argument, and what follows. -/
def readHead : Bytes → Option (Nat × Nat × Nat × Bytes)
  | [] => none
  | b :: rest =>
    let major := b.toNat / 32
    let info := b.toNat % 32
    if info < 24 then some (major, info, info, rest)
    else do
      let width ← argumentWidth info
      if rest.length < width then none
      else return (major, info, ofBE (rest.take width), rest.drop width)

/-! ## Writing -/

mutual

/-- The deterministic encoding of a value, if it has one. -/
def encode : Value → Option Bytes
  | .integer i => if 0 ≤ i then head 0 i.toNat else head 1 (-1 - i).toNat
  | .bytes bs => do return (← head 2 bs.length) ++ bs
  | .text s => do return (← head 3 (Utf8.encode s).length) ++ Utf8.encode s
  | .array items => do return (← head 4 items.length) ++ (← encodeItems items)
  | .map entries => do return (← head 5 entries.length) ++ (← encodeEntries entries)
  | .tag tag value => do return (← head 6 tag.toNat) ++ (← encode value)
  | .bool b => some [if b then 0xf5 else 0xf4]
  | .null => some [0xf6]
  | .float bits => some (0xfb :: toBE 8 bits.toNat)
  | .other _ => none

/-- The encodings of the items of an array, one behind the other. -/
def encodeItems : List Value → Option Bytes
  | [] => some []
  | item :: items => do return (← encode item) ++ (← encodeItems items)

/-- The encodings of the entries of a map, one behind the other. -/
def encodeEntries : List (Value × Value) → Option Bytes
  | [] => some []
  | (key, value) :: entries => do
    return (← encode key) ++ (← encode value) ++ (← encodeEntries entries)

end

mutual

/-- The nesting depth of a value. -/
def depth : Value → Nat
  | .array items => depthItems items + 1
  | .map entries => depthEntries entries + 1
  | .tag _ value => depth value + 1
  | _ => 1

/-- The greatest depth of the items of an array. -/
def depthItems : List Value → Nat
  | [] => 0
  | item :: items => max (depth item) (depthItems items)

/-- The greatest depth of the keys and values of a map. -/
def depthEntries : List (Value × Value) → Nat
  | [] => 0
  | (key, value) :: entries => max (max (depth key) (depth value)) (depthEntries entries)

end

/-! ## Nesting -/

/-- `u` is the value or stands in it, at any depth. -/
inductive Within (u : Value) : Value → Prop
  | self : Within u u
  | tag {tag : UInt64} {value : Value} (h : Within u value) : Within u (.tag tag value)
  | item {items : List Value} {item : Value} (hmem : item ∈ items) (h : Within u item) :
    Within u (.array items)
  | key {entries : List (Value × Value)} {entry : Value × Value} (hmem : entry ∈ entries)
    (h : Within u entry.1) : Within u (.map entries)
  | value {entries : List (Value × Value)} {entry : Value × Value} (hmem : entry ∈ entries)
    (h : Within u entry.2) : Within u (.map entries)

/-- Induction along the nesting: what holds of a tagged value, of the items of an array and of the
keys and values of a map holds of what they make up. -/
@[elab_as_elim]
theorem Value.nesting {motive : Value → Prop} (integer : ∀ i, motive (.integer i))
    (bytes : ∀ bs, motive (.bytes bs)) (float : ∀ bits, motive (.float bits))
    (text : ∀ s, motive (.text s)) (bool : ∀ b, motive (.bool b)) (null : motive .null)
    (tag : ∀ tag value, motive value → motive (.tag tag value))
    (array : ∀ items, (∀ item ∈ items, motive item) → motive (.array items))
    (map : ∀ entries, (∀ entry ∈ entries, motive entry.1 ∧ motive entry.2) → motive (.map entries))
    (other : ∀ kind, motive (.other kind)) (v : Value) : motive v :=
  @Value.rec motive (fun items => ∀ item ∈ items, motive item)
    (fun entries => ∀ entry ∈ entries, motive entry.1 ∧ motive entry.2)
    (fun entry => motive entry.1 ∧ motive entry.2)
    integer bytes float text bool null tag array map other
    (by simp) (fun _ _ hitem hitems => List.forall_mem_cons.mpr ⟨hitem, hitems⟩)
    (by simp) (fun _ _ hentry hentries => List.forall_mem_cons.mpr ⟨hentry, hentries⟩)
    (fun _ _ hkey hvalue => ⟨hkey, hvalue⟩) v

/-! ## Reading -/

/-- Read `n` things, one behind the other. -/
def readMany {α : Type} (read : Bytes → Option (α × Bytes)) :
    Nat → Bytes → Option (List α × Bytes)
  | 0, bs => some ([], bs)
  | n + 1, bs => do
    let (x, bs) ← read bs
    let (xs, bs) ← readMany read n bs
    return (x :: xs, bs)

/-- Read one thing and then another. -/
def readPair {α β : Type} (readFst : Bytes → Option (α × Bytes))
    (readSnd : Bytes → Option (β × Bytes)) (bs : Bytes) : Option ((α × β) × Bytes) := do
  let (x, bs) ← readFst bs
  let (y, bs) ← readSnd bs
  return ((x, y), bs)

/-- Read `n` bytes. -/
def readBytes (n : Nat) (bs : Bytes) : Option (Bytes × Bytes) :=
  if bs.length < n then none else some (bs.take n, bs.drop n)

/-- Read a value of at most the given depth. -/
def decode : Nat → Bytes → Option (Value × Bytes)
  | 0, _ => none
  | fuel + 1, bs => do
    let (major, info, n, bs) ← readHead bs
    match major with
    | 0 => return (.integer n, bs)
    | 1 => return (.integer (-1 - n), bs)
    | 2 => do
      let (content, bs) ← readBytes n bs
      return (.bytes content, bs)
    | 3 => do
      let (content, bs) ← readBytes n bs
      return (.text (← Utf8.decode content), bs)
    | 4 => do
      let (items, bs) ← readMany (decode fuel) n bs
      return (.array items, bs)
    | 5 => do
      let (entries, bs) ← readMany (readPair (decode fuel) (decode fuel)) n bs
      return (.map entries, bs)
    | 6 => do
      let (value, bs) ← decode fuel bs
      return (.tag (UInt64.ofNat n) value, bs)
    | _ =>
      match info with
      | 20 => return (.bool false, bs)
      | 21 => return (.bool true, bs)
      | 22 => return (.null, bs)
      | 27 => return (.float (UInt64.ofNat n), bs)
      | _ => none

/-! ## Reading undoes writing -/

lemma toNat_leading {major k : Nat} (hmajor : major < 8) (hk : k < 32) :
    (UInt8.ofNat (32 * major + k)).toNat = 32 * major + k := by
  rw [UInt8.toNat_ofNat']
  omega

/-- A head with its argument in `width` bytes reads as what it says. -/
lemma readHead_wide {major info width n : Nat} (hmajor : major < 8) (hinfo : 24 ≤ info)
    (hwide : info < 32) (hwidth : argumentWidth info = some width) (hn : n < 256 ^ width)
    (rest : Bytes) :
    readHead (UInt8.ofNat (32 * major + info) :: (toBE width n ++ rest))
      = some (major, info, n, rest) := by
  have hlength := length_toBE width n
  have hdiv : (32 * major + info) / 32 = major := by omega
  have hmod : (32 * major + info) % 32 = info := by omega
  simp only [readHead, toNat_leading hmajor hwide, hdiv, hmod, if_neg (Nat.not_lt.mpr hinfo),
    hwidth]
  show (if _ then none else _) = _
  rw [if_neg (by rw [List.length_append]; omega), List.take_left' hlength,
    List.drop_left' hlength, ofBE_toBE, Nat.mod_eq_of_lt hn]
  rfl

/-- The head of an item reads as what was written. -/
lemma readHead_head {major n : Nat} (hmajor : major < 8) {x : Bytes} (h : head major n = some x)
    (rest : Bytes) : ∃ info, readHead (x ++ rest) = some (major, info, n, rest) := by
  unfold head at h
  split at h
  · next hn =>
    cases h
    have hdiv : (32 * major + n) / 32 = major := by omega
    have hmod : (32 * major + n) % 32 = n := by omega
    refine ⟨n, ?_⟩
    show readHead (UInt8.ofNat (32 * major + n) :: rest) = _
    simp only [readHead, toNat_leading hmajor (show n < 32 by omega), hdiv, hmod, if_pos hn]
  split at h
  · next hn =>
    cases h
    exact ⟨24, readHead_wide hmajor (by omega) (by omega) rfl hn rest⟩
  split at h
  · next hn =>
    cases h
    exact ⟨25, readHead_wide hmajor (by omega) (by omega) rfl hn rest⟩
  split at h
  · next hn =>
    cases h
    exact ⟨26, readHead_wide hmajor (by omega) (by omega) rfl hn rest⟩
  split at h
  · next hn =>
    cases h
    exact ⟨27, readHead_wide hmajor (by omega) (by omega) rfl hn rest⟩
  · exact absurd h (by simp)

lemma readBytes_append (bs rest : Bytes) : readBytes bs.length (bs ++ rest) = some (bs, rest) := by
  simp [readBytes]

/-- Two things written one behind the other. -/
lemma exists_append {a b : Option Bytes} {x : Bytes} (h : (do return (← a) ++ (← b)) = some x) :
    ∃ y z, a = some y ∧ b = some z ∧ x = y ++ z := by
  cases a with
  | none => exact absurd h (by simp)
  | some y =>
    cases b with
    | none => exact absurd h (by simp)
    | some z => exact ⟨y, z, rfl, rfl, (Option.some.inj h).symm⟩

mutual

/-- **Reading undoes writing**, whatever follows. -/
theorem decode_encode (v : Value) {fuel : Nat} (hfuel : depth v ≤ fuel) {x : Bytes}
    (h : encode v = some x) (rest : Bytes) : decode fuel (x ++ rest) = some (v, rest) := by
  cases fuel with
  | zero => exact absurd hfuel (by cases v <;> simp [depth])
  | succ fuel =>
    cases v with
    | integer i =>
      rw [encode] at h
      split at h
      · next hi =>
        obtain ⟨info, hread⟩ := readHead_head (by omega) h rest
        rw [decode, hread]
        show some (Value.integer (i.toNat : Nat), rest) = _
        rw [Int.toNat_of_nonneg hi]
      · next hi =>
        obtain ⟨info, hread⟩ := readHead_head (by omega) h rest
        rw [decode, hread]
        show some (Value.integer (-1 - ((-1 - i).toNat : Nat)), rest) = _
        rw [Int.toNat_of_nonneg (by omega)]
        simp
    | bytes bs =>
      rw [encode] at h
      obtain ⟨y, z, hy, hz, rfl⟩ := exists_append (b := some bs) h
      cases hz
      obtain ⟨info, hread⟩ := readHead_head (by omega) hy (bs ++ rest)
      rw [List.append_assoc, decode, hread]
      show (readBytes bs.length (bs ++ rest)).bind _ = _
      rw [readBytes_append]
      rfl
    | text s =>
      rw [encode] at h
      obtain ⟨y, z, hy, hz, rfl⟩ := exists_append (b := some (Utf8.encode s)) h
      cases hz
      obtain ⟨info, hread⟩ := readHead_head (by omega) hy (Utf8.encode s ++ rest)
      rw [List.append_assoc, decode, hread]
      show (readBytes (Utf8.encode s).length (Utf8.encode s ++ rest)).bind _ = _
      rw [readBytes_append]
      show ((Utf8.decode (Utf8.encode s)).bind _) = _
      rw [Utf8.decode_encode]
      rfl
    | array items =>
      rw [encode] at h
      obtain ⟨y, z, hy, hz, rfl⟩ := exists_append h
      obtain ⟨info, hread⟩ := readHead_head (by omega) hy (z ++ rest)
      have hitems := decode_encodeItems items (by simpa [depth] using hfuel) hz rest
      rw [List.append_assoc, decode, hread]
      show (readMany (decode fuel) items.length (z ++ rest)).bind _ = _
      rw [hitems]
      rfl
    | map entries =>
      rw [encode] at h
      obtain ⟨y, z, hy, hz, rfl⟩ := exists_append h
      obtain ⟨info, hread⟩ := readHead_head (by omega) hy (z ++ rest)
      have hentries := decode_encodeEntries entries (by simpa [depth] using hfuel) hz rest
      rw [List.append_assoc, decode, hread]
      show (readMany (readPair (decode fuel) (decode fuel)) entries.length (z ++ rest)).bind _ = _
      rw [hentries]
      rfl
    | tag tag value =>
      rw [encode] at h
      obtain ⟨y, z, hy, hz, rfl⟩ := exists_append h
      obtain ⟨info, hread⟩ := readHead_head (by omega) hy (z ++ rest)
      have hvalue := decode_encode value (by simpa [depth] using hfuel) hz rest
      rw [List.append_assoc, decode, hread]
      show (decode fuel (z ++ rest)).bind _ = _
      rw [hvalue]
      show some (Value.tag (UInt64.ofNat tag.toNat) value, rest) = _
      rw [UInt64.ofNat_toNat]
    | bool b =>
      rw [encode] at h
      cases h
      cases b <;> rfl
    | null =>
      rw [encode] at h
      cases h
      rfl
    | float bits =>
      rw [encode] at h
      cases h
      have hread := readHead_wide (show 7 < 8 by omega) (show 24 ≤ 27 by omega) (by omega) rfl
        (show bits.toNat < 256 ^ 8 from bits.toNat_lt) rest
      show decode (fuel + 1) (UInt8.ofNat (32 * 7 + 27) :: (toBE 8 bits.toNat ++ rest)) = _
      rw [decode, hread]
      show some (Value.float (UInt64.ofNat bits.toNat), rest) = _
      rw [UInt64.ofNat_toNat]
    | other kind => exact absurd h (by simp [encode])

theorem decode_encodeItems (items : List Value) {fuel : Nat} (hfuel : depthItems items ≤ fuel)
    {x : Bytes} (h : encodeItems items = some x) (rest : Bytes) :
    readMany (decode fuel) items.length (x ++ rest) = some (items, rest) := by
  cases items with
  | nil =>
    rw [encodeItems] at h
    cases h
    rfl
  | cons item items =>
    rw [encodeItems] at h
    rw [depthItems] at hfuel
    obtain ⟨y, z, hy, hz, rfl⟩ := exists_append h
    have hitem := decode_encode item (show depth item ≤ fuel by omega) hy (z ++ rest)
    have hitems := decode_encodeItems items (show depthItems items ≤ fuel by omega) hz rest
    rw [List.append_assoc]
    show (decode fuel (y ++ (z ++ rest))).bind _ = _
    rw [hitem]
    show (readMany (decode fuel) items.length (z ++ rest)).bind _ = _
    rw [hitems]
    rfl

theorem decode_encodeEntries (entries : List (Value × Value)) {fuel : Nat}
    (hfuel : depthEntries entries ≤ fuel) {x : Bytes} (h : encodeEntries entries = some x)
    (rest : Bytes) :
    readMany (readPair (decode fuel) (decode fuel)) entries.length (x ++ rest)
      = some (entries, rest) := by
  match entries with
  | [] =>
    rw [encodeEntries] at h
    cases h
    rfl
  | (key, value) :: entries =>
    rw [encodeEntries] at h
    rw [depthEntries] at hfuel
    cases hk : encode key with
    | none => exact absurd h (by simp [hk])
    | some k =>
      cases hv : encode value with
      | none => exact absurd h (by simp [hk, hv])
      | some w =>
        rw [hk, hv] at h
        obtain ⟨y, z, hy, hz, rfl⟩ := exists_append (a := some (k ++ w)) h
        cases hy
        have hkey := decode_encode key (show depth key ≤ fuel by omega) hk (w ++ (z ++ rest))
        have hvalue := decode_encode value (show depth value ≤ fuel by omega) hv (z ++ rest)
        have hentries := decode_encodeEntries entries (show depthEntries entries ≤ fuel by omega) hz
          rest
        rw [List.append_assoc, List.append_assoc]
        show (readPair (decode fuel) (decode fuel) (k ++ (w ++ (z ++ rest)))).bind _ = _
        have hpair : readPair (decode fuel) (decode fuel) (k ++ (w ++ (z ++ rest)))
            = some ((key, value), z ++ rest) := by
          show (decode fuel (k ++ (w ++ (z ++ rest)))).bind _ = _
          rw [hkey]
          show (decode fuel (w ++ (z ++ rest))).bind _ = _
          rw [hvalue]
          rfl
        rw [hpair]
        show (readMany (readPair (decode fuel) (decode fuel)) entries.length (z ++ rest)).bind _
          = _
        rw [hentries]
        rfl

end

/-- Different values have different encodings. -/
theorem encode_inj {v w : Value} {x : Bytes} (hv : encode v = some x) (hw : encode w = some x) :
    v = w := by
  have hreadV := decode_encode v (le_max_left (depth v) (depth w)) hv []
  have hreadW := decode_encode w (le_max_right (depth v) (depth w)) hw []
  rw [hreadV] at hreadW
  exact congrArg Prod.fst (Option.some.inj hreadW)

end Cbor
