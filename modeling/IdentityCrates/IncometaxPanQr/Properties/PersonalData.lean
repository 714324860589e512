import IdentityCrates.IncometaxPanQr.Properties.Reserialisation

/-!
# The personal data

The PII block is a two-byte element count and then elements `08 02 len payload`.  `handle_pii` does
not read the count: it looks for the marker `08 02` from the first byte on, takes the element that
starts there, goes on behind it, and chooses the layout by the number of elements it has found.

What carries the round trip is where the scan stands.  It starts at the front of an element, takes
it whole, and stands at the front of the next one (`scan_elements`), so a marker inside a payload is
never looked at; and the count does not form a marker with what follows it (`scan_count`).

A cut through a block leaves whole elements and the beginning of one more (`prefix_flatMap`).  A
beginning that shows its length byte is an error.  One that does not is passed over like the end of
the data, and then only the number of whole elements counts: behind three of four elements the cut
block reads as an organization's.
-/

namespace IncometaxPanQr

open Octets Rust

/-! ## Blocks -/

/-- An element as it is encoded. -/
def piiElement (payload : Bytes) : Bytes := 0x08 :: 0x02 :: UInt8.ofNat payload.length :: payload

/-- Elements one after the other. -/
def piiElements (payloads : List Bytes) : Bytes := payloads.flatMap piiElement

/-- A block as it is encoded. -/
def piiBlock (count : UInt8) (payloads : List Bytes) : Bytes :=
  0x00 :: count :: piiElements payloads

lemma length_piiElement (payload : Bytes) : (piiElement payload).length = 3 + payload.length := by
  rw [piiElement, List.length_cons, List.length_cons, List.length_cons]
  omega

@[simp] lemma piiElements_nil : piiElements [] = [] := rfl

@[simp] lemma piiElements_cons (payload : Bytes) (payloads : List Bytes) :
    piiElements (payload :: payloads) = piiElement payload ++ piiElements payloads := rfl

lemma piiElements_append (xs ys : List Bytes) :
    piiElements (xs ++ ys) = piiElements xs ++ piiElements ys := List.flatMap_append

/-! ## The scan -/

lemma scan_short {data : Bytes} {i : Nat} (h : data.length ≤ i + 2) (payloads : List Bytes) :
    scanPayloads data i payloads = .ok payloads := by
  rw [scanPayloads, dif_neg (by omega)]

/-- A byte with which no marker starts is passed over. -/
lemma scan_skip (front rest : Bytes) {a b : UInt8} (c : UInt8) (h : ¬ (a = 0x08 ∧ b = 0x02))
    (payloads : List Bytes) :
    scanPayloads (front ++ a :: b :: c :: rest) front.length payloads =
      scanPayloads (front ++ a :: b :: c :: rest) (front.length + 1) payloads := by
  have hlen : front.length + 2 < (front ++ a :: b :: c :: rest).length := by simp
  have ha : (index (front ++ a :: b :: c :: rest) front.length : Outcome PanQrError UInt8) =
      .ok a := index_eq (by simp)
  have hb : (index (front ++ a :: b :: c :: rest) (front.length + 1) : Outcome PanQrError UInt8) =
      .ok b := index_eq (by simp)
  have hmarker : isMarker (front ++ a :: b :: c :: rest) front.length = .ok false := by
    unfold isMarker
    rw [ha, Outcome.ok_bind]
    by_cases h8 : a = 0x08
    · rw [if_pos h8, hb, Outcome.ok_bind]
      have h2 : b ≠ 0x02 := fun h2 => h ⟨h8, h2⟩
      simp [h2]
    · rw [if_neg h8]
      rfl
  rw [scanPayloads, dif_pos hlen, hmarker, Outcome.ok_bind]
  rfl

/-- At a marker the element is taken whole, or is an error if it does not end within the data. -/
lemma scan_marker (front rest : Bytes) (n : UInt8) (payloads : List Bytes) :
    scanPayloads (front ++ 0x08 :: 0x02 :: n :: rest) front.length payloads =
      if rest.length < n.toNat then .err (.unexpectedEof "PII element")
      else scanPayloads (front ++ 0x08 :: 0x02 :: n :: rest) (front.length + 3 + n.toNat)
        (payloads ++ [rest.take n.toNat]) := by
  have hlength : (front ++ 0x08 :: 0x02 :: n :: rest).length = front.length + 3 + rest.length := by
    simp only [List.length_append, List.length_cons]
    omega
  have hindex : ∀ (j : Nat) (b : UInt8), (0x08 :: 0x02 :: n :: rest)[j]? = some b →
      (index (front ++ 0x08 :: 0x02 :: n :: rest) (front.length + j) : Outcome PanQrError UInt8) =
        .ok b := by
    intro j b hj
    apply index_eq
    rw [List.getElem?_append_right (Nat.le_add_right _ _), Nat.add_sub_cancel_left]
    exact hj
  have hfirst := hindex 0 0x08 rfl
  rw [Nat.add_zero] at hfirst
  have hmarker : isMarker (front ++ 0x08 :: 0x02 :: n :: rest) front.length = .ok true := by
    unfold isMarker
    rw [hfirst, Outcome.ok_bind, if_pos rfl, hindex 1 0x02 rfl]
    rfl
  rw [scanPayloads, dif_pos (by omega), hmarker, Outcome.ok_bind, if_pos rfl, hindex 2 n rfl,
    Outcome.ok_bind]
  dsimp only
  by_cases hcut : rest.length < n.toNat
  · rw [if_pos hcut, if_pos (by omega)]
  · have hslice : (slice (front ++ 0x08 :: 0x02 :: n :: rest) (front.length + 3)
        (front.length + 3 + n.toNat) : Outcome PanQrError Bytes) = .ok (rest.take n.toNat) := by
      rw [slice_eq (by omega) (by omega), Nat.add_sub_cancel_left, ← List.drop_drop,
        List.drop_left]
      rfl
    rw [if_neg hcut, if_neg (by omega), hslice, Outcome.ok_bind]

/-- Elements are taken one after the other, whatever is in them. -/
lemma scan_elements {payloads : List Bytes} (hsize : ∀ x ∈ payloads, x.length ≤ 255)
    (front rest : Bytes) (found : List Bytes) :
    scanPayloads (front ++ (piiElements payloads ++ rest)) front.length found =
      scanPayloads (front ++ (piiElements payloads ++ rest))
        (front.length + (piiElements payloads).length) (found ++ payloads) := by
  induction payloads generalizing front found with
  | nil => simp
  | cons payload payloads ih =>
    have hpayload : payload.length ≤ 255 := hsize payload List.mem_cons_self
    have hn : (UInt8.ofNat payload.length).toNat = payload.length := by
      rw [UInt8.toNat_ofNat', Nat.mod_eq_of_lt (by omega)]
    have hdata : front ++ (piiElements (payload :: payloads) ++ rest) =
        front ++ 0x08 :: 0x02 :: UInt8.ofNat payload.length ::
          (payload ++ (piiElements payloads ++ rest)) := by
      simp only [piiElements_cons, piiElement, List.cons_append, List.append_assoc]
    have hnext : front ++ (piiElements (payload :: payloads) ++ rest) =
        (front ++ piiElement payload) ++ (piiElements payloads ++ rest) := by
      simp only [piiElements_cons, List.append_assoc]
    have hpos : front.length + 3 + payload.length = (front ++ piiElement payload).length := by
      rw [List.length_append, length_piiElement]
      omega
    rw [hdata, scan_marker, hn, if_neg (by simp), List.take_left, ← hdata, hnext, hpos,
      ih (fun x hx => hsize x (List.mem_cons_of_mem payload hx))]
    congr 1
    · rw [piiElements_cons, List.length_append, List.length_append]
      omega
    · rw [List.append_assoc]
      rfl

/-- The count is passed over: neither of its bytes starts a marker. -/
lemma scan_count (count : UInt8) {rest : Bytes} (hrest : ∀ b ∈ rest.head?, b = 0x08)
    (payloads : List Bytes) :
    scanPayloads (0x00 :: count :: rest) 0 payloads =
      scanPayloads (0x00 :: count :: rest) 2 payloads := by
  rcases rest with _ | ⟨b, rest⟩
  · rw [scan_short (by simp), scan_short (by simp)]
  · obtain rfl : b = 0x08 := hrest b rfl
    have hfirst := scan_skip [] rest 0x08 (a := 0x00) (b := count) (by simp) payloads
    rcases rest with _ | ⟨c, rest⟩
    · exact hfirst.trans (by rw [scan_short (by simp), scan_short (by simp)])
    · have hsecond := scan_skip [0x00] rest c (a := count) (b := 0x08) (by simp) payloads
      exact hfirst.trans hsecond

lemma head?_piiElements (payloads : List Bytes) (rest : Bytes)
    (h : payloads = [] → ∀ b ∈ rest.head?, b = 0x08) :
    ∀ b ∈ (piiElements payloads ++ rest).head?, b = 0x08 := by
  cases payloads with
  | nil => exact h rfl
  | cons payload payloads =>
    rintro b ⟨⟩
    rfl

/-- The scan of a block whose elements are followed by something: it stands behind them. -/
lemma scan_block {payloads : List Bytes} (hsize : ∀ x ∈ payloads, x.length ≤ 255) (count : UInt8)
    (rest : Bytes) (h : ∀ b ∈ rest.head?, b = 0x08) :
    scanPayloads (0x00 :: count :: (piiElements payloads ++ rest)) 0 [] =
      scanPayloads (0x00 :: count :: (piiElements payloads ++ rest))
        (2 + (piiElements payloads).length) payloads := by
  rw [scan_count count (head?_piiElements payloads rest fun _ => h)]
  exact scan_elements hsize [0x00, count] rest []

/-! ## Whole blocks -/

namespace Parser

lemma handlePii_ok {data : Bytes} {payloads : List Bytes} {pii : PanPii}
    (hscan : scanPayloads data 0 [] = .ok payloads) (hpii : piiOfPayloads payloads = .ok pii)
    (p : Parser) : handlePii data p = (.ok (), { p with pii := some pii }) := by
  unfold handlePii
  rw [hscan, Proc.lift_ok_bind_apply, hpii, Proc.lift_ok_bind_apply, Proc.modify_apply]

lemma handlePii_err {data : Bytes} {payloads : List Bytes} {e : PanQrError}
    (hscan : scanPayloads data 0 [] = .ok payloads) (hpii : piiOfPayloads payloads = .err e)
    (p : Parser) : handlePii data p = (.err e, p) := by
  unfold handlePii
  rw [hscan, Proc.lift_ok_bind_apply, hpii, Proc.lift_err_bind_apply]

lemma handlePii_scan_err {data : Bytes} {e : PanQrError} (hscan : scanPayloads data 0 [] = .err e)
    (p : Parser) : handlePii data p = (.err e, p) := by
  unfold handlePii
  rw [hscan, Proc.lift_err_bind_apply]

end Parser

lemma scan_whole {payloads : List Bytes} (hsize : ∀ x ∈ payloads, x.length ≤ 255)
    (count : UInt8) : scanPayloads (piiBlock count payloads) 0 [] = .ok payloads := by
  have hscan := scan_block hsize count [] (by simp)
  rw [List.append_nil] at hscan
  rw [piiBlock, hscan, scan_short]
  simp only [List.length_cons]
  omega

/-- **The personal data comes back.**  Whatever the payloads hold, three make an organization's
record and four or more an individual's of the first four; and no data makes the scan read out of
range. -/
theorem handlePii_returns :
    (∀ (count : UInt8) (pan name date : Bytes) (p : Parser),
      (∀ x ∈ [pan, name, date], x.length ≤ 255) →
      Parser.handlePii (piiBlock count [pan, name, date]) p =
        (.ok (), { p with
          pii := some (.organization (Utf8.lossy pan) (checkPanDetails (Utf8.lossy pan)).isValid
            (Utf8.lossy name) (Utf8.lossy date)) })) ∧
    (∀ (count : UInt8) (pan name fatherName dob : Bytes) (more : List Bytes) (p : Parser),
      (∀ x ∈ pan :: name :: fatherName :: dob :: more, x.length ≤ 255) →
      Parser.handlePii (piiBlock count (pan :: name :: fatherName :: dob :: more)) p =
        (.ok (), { p with
          pii := some (.individual (Utf8.lossy pan) (checkPanDetails (Utf8.lossy pan)).isValid
            (Utf8.lossy name) (Utf8.lossy fatherName) (Utf8.lossy dob)) })) ∧
    ∀ (data : Bytes) (p : Parser), (Parser.handlePii data p).1 ≠ .panic := by
  refine ⟨?_, ?_, fun data p => (Parser.handlePii_benign data).1 p⟩
  · intro count pan name date p hsize
    exact Parser.handlePii_ok (scan_whole hsize count) rfl p
  · intro count pan name fatherName dob more p hsize
    exact Parser.handlePii_ok (scan_whole hsize count) rfl p

/-- A parser as it stands before the blocks are walked. -/
def freshParser : Parser :=
  { panOuter := ⟨⟨0x03, 0x00, 0x1E, 0x00, 0x01, 0x00, [], 0x00, []⟩, 0x00, 0, []⟩
    signature := []
    message := []
    publicKey := none
    image := none
    pii := none }

/-- Payloads that hold the marker, end in its first byte, or are empty. -/
theorem handlePii_returns_markers :
    Parser.handlePii (piiBlock 3 [[0x08, 0x02], [0x08], []]) freshParser =
      (.ok (), { freshParser with
        pii := some (.organization (Utf8.lossy [0x08, 0x02])
          (checkPanDetails (Utf8.lossy [0x08, 0x02])).isValid (Utf8.lossy [0x08])
          (Utf8.lossy [])) }) ∧
    Parser.handlePii (piiBlock 4 [[0x08, 0x02], [0x08], [], []]) freshParser =
      (.ok (), { freshParser with
        pii := some (.individual (Utf8.lossy [0x08, 0x02])
          (checkPanDetails (Utf8.lossy [0x08, 0x02])).isValid (Utf8.lossy [0x08]) (Utf8.lossy [])
          (Utf8.lossy [])) }) :=
  ⟨handlePii_returns.1 3 _ _ _ freshParser (by decide),
    handlePii_returns.2.1 4 _ _ _ _ [] freshParser (by decide)⟩

/-! ## Truncated blocks -/

/-- A cut through pieces that stand one after the other leaves whole pieces and a part of the next
one. -/
lemma exists_take_flatMap {α β : Type} (f : α → List β) {xs : List α} {cut : Nat}
    (h : cut < (xs.flatMap f).length) :
    ∃ before x after k, xs = before ++ x :: after ∧ k < (f x).length ∧
      cut = (before.flatMap f).length + k ∧
      (xs.flatMap f).take cut = before.flatMap f ++ (f x).take k := by
  induction xs generalizing cut with
  | nil => exact absurd h (Nat.not_lt_zero cut)
  | cons x xs ih =>
    rw [List.flatMap_cons, List.length_append] at h
    by_cases hcut : cut < (f x).length
    · refine ⟨[], x, xs, cut, rfl, hcut, by simp, ?_⟩
      rw [List.flatMap_cons, List.take_append_of_le_length hcut.le]
      rfl
    · have hrest : cut - (f x).length < (xs.flatMap f).length := by omega
      obtain ⟨before, y, after, k, rfl, hk, hlen, htake⟩ := ih hrest
      refine ⟨x :: before, y, after, k, rfl, hk, ?_, ?_⟩
      · rw [List.flatMap_cons, List.length_append]
        omega
      · have hwhole : ((f x) ++ (before ++ y :: after).flatMap f).take cut =
            f x ++ ((before ++ y :: after).flatMap f).take (cut - (f x).length) := by
          rw [List.take_append, List.take_of_length_le (by omega)]
        rw [List.flatMap_cons, List.flatMap_cons, hwhole, htake, List.append_assoc]

/-- Two bytes or less of an element look like the end of the data. -/
lemma scan_cut_short {before : List Bytes} (hsize : ∀ x ∈ before, x.length ≤ 255) (count : UInt8)
    (payload : Bytes) {k : Nat} (hk : k ≤ 2) :
    scanPayloads (0x00 :: count :: (piiElements before ++ (piiElement payload).take k)) 0 [] =
      .ok before := by
  have hhead : ∀ b ∈ ((piiElement payload).take k).head?, b = 0x08 := by
    rcases k with _ | k
    · simp
    · rintro b ⟨⟩
      rfl
  rw [scan_block hsize count _ hhead, scan_short]
  simp only [List.length_cons, List.length_append, List.length_take]
  omega

/-- An element that shows its length byte and ends too early is an error. -/
lemma scan_cut_long {before : List Bytes} (hsize : ∀ x ∈ before, x.length ≤ 255) (count : UInt8)
    {payload : Bytes} (hpayload : payload.length ≤ 255) {k : Nat} (hk : 3 ≤ k)
    (hcut : k < (piiElement payload).length) :
    scanPayloads (0x00 :: count :: (piiElements before ++ (piiElement payload).take k)) 0 [] =
      .err (.unexpectedEof "PII element") := by
  obtain ⟨j, rfl⟩ := Nat.exists_eq_add_of_le' hk
  have hpart : (piiElement payload).take (j + 3) =
      0x08 :: 0x02 :: UInt8.ofNat payload.length :: payload.take j := rfl
  have hn : (UInt8.ofNat payload.length).toNat = payload.length := by
    rw [UInt8.toNat_ofNat', Nat.mod_eq_of_lt (by omega)]
  rw [length_piiElement] at hcut
  have hhead : ∀ b ∈ ((piiElement payload).take (j + 3)).head?, b = 0x08 := by
    rintro b ⟨⟩
    rfl
  have hmarker := scan_marker (0x00 :: count :: piiElements before) (payload.take j)
    (UInt8.ofNat payload.length) before
  rw [hn, if_pos (by rw [List.length_take]; omega)] at hmarker
  rw [scan_block hsize count _ hhead, hpart, ← hmarker]
  congr 1
  simp only [List.length_cons]
  omega

/-- The cut is behind the third of four elements, or at most two bytes further. -/
def CutsBehindThird (payloads : List Bytes) (cut : Nat) : Prop :=
  payloads.length = 4 ∧ 2 + (piiElements (payloads.take 3)).length ≤ cut ∧
    cut ≤ 2 + (piiElements (payloads.take 3)).length + 2

/-- The data is an error, and the parser is left as it was. -/
def Rejected (data : Bytes) : Prop :=
  ∀ p : Parser, ∃ e, Parser.handlePii data p = (.err e, p)

lemma piiOfPayloads_few {payloads : List Bytes} (h : payloads.length < 3) :
    piiOfPayloads payloads = .err .missingPii := by
  rcases payloads with _ | ⟨a, _ | ⟨b, _ | ⟨c, rest⟩⟩⟩
  · rfl
  · rfl
  · rfl
  · simp only [List.length_cons] at h
    omega

lemma exists_piiOfPayloads {payloads : List Bytes} (h : payloads.length = 3) :
    ∃ pii, piiOfPayloads payloads = .ok pii := by
  obtain ⟨a, b, c, rfl⟩ := List.length_eq_three.mp h
  exact ⟨_, rfl⟩

/-- Behind the count, a cut leaves whole elements and `k` bytes of the next; it is an error unless
there are three of them and `k` is at most two. -/
lemma rejected_iff_of_cut {before : List Bytes} {payload : Bytes}
    (hsize : ∀ x ∈ before, x.length ≤ 255) (hpayload : payload.length ≤ 255) (count : UInt8)
    (hfew : before.length ≤ 3) {k : Nat} (hk : k < (piiElement payload).length) :
    Rejected (0x00 :: count :: (piiElements before ++ (piiElement payload).take k)) ↔
      ¬ (before.length = 3 ∧ k ≤ 2) := by
  constructor
  · rintro hrejected ⟨hthree, hshort⟩
    obtain ⟨pii, hpii⟩ := exists_piiOfPayloads hthree
    obtain ⟨e, he⟩ := hrejected freshParser
    rw [Parser.handlePii_ok (scan_cut_short hsize count payload hshort) hpii] at he
    cases congrArg Prod.fst he
  · intro hcut p
    by_cases hshort : k ≤ 2
    · have hlt : before.length < 3 := lt_of_le_of_ne hfew fun hthree => hcut ⟨hthree, hshort⟩
      exact ⟨_, Parser.handlePii_err (scan_cut_short hsize count payload hshort)
        (piiOfPayloads_few hlt) p⟩
    · exact ⟨_, Parser.handlePii_scan_err
        (scan_cut_long hsize count hpayload (by omega) hk) p⟩

/-- A cut within the count leaves nothing to scan. -/
lemma rejected_of_short {data : Bytes} (h : data.length ≤ 2) : Rejected data := fun p =>
  ⟨_, Parser.handlePii_err (scan_short (by omega) []) (piiOfPayloads_few (by simp)) p⟩

/-- In those terms, the cut behind the third of four elements. -/
lemma cutsBehindThird_iff {before after : List Bytes} {payload : Bytes}
    (hcount : (before ++ payload :: after).length = 3 ∨ (before ++ payload :: after).length = 4)
    {k : Nat} (hk : k < (piiElement payload).length) :
    before.length = 3 ∧ k ≤ 2 ↔
      CutsBehindThird (before ++ payload :: after) ((piiElements before).length + k + 2) := by
  rw [List.length_append, List.length_cons] at hcount
  unfold CutsBehindThird
  rw [List.length_append, List.length_cons]
  rcases Nat.lt_or_ge before.length 3 with hlt | hge
  · have htake : (before ++ payload :: after).take 3 =
        before ++ payload :: after.take (2 - before.length) := by
      rw [List.take_append, List.take_of_length_le hlt.le]
      have hone : 3 - before.length = (2 - before.length) + 1 := by omega
      rw [hone, List.take_succ_cons]
    rw [htake, piiElements_append, piiElements_cons, List.length_append, List.length_append]
    constructor
    · rintro ⟨hthree, -⟩
      omega
    · rintro ⟨-, hle, -⟩
      omega
  · have hthree : before.length = 3 := by omega
    rw [List.take_left' hthree]
    constructor
    · rintro ⟨-, hshort⟩
      exact ⟨by omega, by omega, by omega⟩
    · rintro ⟨-, -, hle⟩
      exact ⟨hthree, by omega⟩

/-- **Truncated blocks.**  A cut block of three or four elements is an error that leaves the parser
as it was, unless it is an individual's block cut behind its third element or within the two bytes
after it. -/
theorem handlePii_truncated_iff {payloads : List Bytes}
    (hcount : payloads.length = 3 ∨ payloads.length = 4) (hsize : ∀ x ∈ payloads, x.length ≤ 255)
    {cut : Nat} (hcut : cut < (piiBlock (UInt8.ofNat payloads.length) payloads).length) :
    Rejected ((piiBlock (UInt8.ofNat payloads.length) payloads).take cut) ↔
      ¬ CutsBehindThird payloads cut := by
  rcases Nat.lt_or_ge cut 2 with hsmall | hlarge
  · refine iff_of_true (rejected_of_short ?_) ?_
    · rw [List.length_take]
      omega
    · rintro ⟨-, hle, -⟩
      omega
  · obtain ⟨j, rfl⟩ := Nat.exists_eq_add_of_le' hlarge
    have hj : j < (piiElements payloads).length := by
      simpa [piiBlock] using hcut
    obtain ⟨before, payload, after, k, rfl, hk, rfl, htake⟩ :=
      exists_take_flatMap piiElement hj
    have hfew : before.length ≤ 3 := by
      simp only [List.length_append, List.length_cons] at hcount
      omega
    have hblock : ∀ count, (piiBlock count (before ++ payload :: after)).take
        ((before.flatMap piiElement).length + k + 2) =
          0x00 :: count :: (piiElements before ++ (piiElement payload).take k) := by
      intro count
      have htwo : (piiBlock count (before ++ payload :: after)).take
          ((before.flatMap piiElement).length + k + 2) =
            0x00 :: count :: ((before ++ payload :: after).flatMap piiElement).take
              ((before.flatMap piiElement).length + k) := rfl
      rw [htwo, htake]
      rfl
    rw [hblock, rejected_iff_of_cut (fun x hx => hsize x (List.mem_append_left _ hx))
      (hsize payload (by simp)) _ hfew hk, not_iff_not]
    exact cutsBehindThird_iff hcount hk

/-- A block of three elements cut inside the last payload. -/
theorem handlePii_truncated_payload :
    Rejected ((piiBlock 3 [[0x41], [0x42], [0x43, 0x44]]).take 14) := by
  have hsize : ∀ x ∈ ([[0x41], [0x42], [0x43, 0x44]] : List Bytes), x.length ≤ 255 := by decide
  exact (handlePii_truncated_iff (Or.inl rfl) hsize (by decide)).mpr fun h => absurd h.1 (by decide)

/-- The first three elements of an individual's four are read as an organization. -/
theorem handlePii_reads_cut_block : ¬ ∀ (payloads : List Bytes) (cut : Nat),
    (payloads.length = 3 ∨ payloads.length = 4) → (∀ x ∈ payloads, x.length ≤ 255) →
    cut < (piiBlock (UInt8.ofNat payloads.length) payloads).length →
    Rejected ((piiBlock (UInt8.ofNat payloads.length) payloads).take cut) := by
  intro h
  obtain ⟨e, he⟩ := h [[0x41], [0x42], [0x43], [0x44]] 14 (Or.inr rfl) (by decide) (by decide)
    freshParser
  have hsize : ∀ x ∈ ([[0x41], [0x42], [0x43]] : List Bytes), x.length ≤ 255 := by decide
  have hscan := scan_cut_short hsize 4 [0x44] (Nat.zero_le 2)
  have hok := Parser.handlePii_ok hscan rfl freshParser
  cases congrArg Prod.fst (he.symm.trans hok)

end IncometaxPanQr
