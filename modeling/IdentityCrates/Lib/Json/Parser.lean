import IdentityCrates.Lib.Json.Grammar

/-!
# A JSON parser

A parser for the whole grammar, and its soundness: a text it accepts is a document, and the value
it answers is the one the document denotes (`document_of_parse`).

Every reader takes the text and answers with what it read and with the rest.  Values nest, so the
readers of values, arrays and objects carry fuel; twice the length of the text is always enough, as
no reader calls another one twice without a character between.
-/

namespace Json

open Text

/-- The text behind its white space. -/
def skipWs (s : Str) : Str := s.dropWhile isWs

/-! ## Numbers -/

/-- `[ minus ]`. -/
def readMinus : Str → Bool × Str
  | '-' :: rest => (true, rest)
  | s => (false, s)

/-- `int`: after a zero no digit belongs to it. -/
def readInt (s : Str) : Option (Str × Str) :=
  match s with
  | '0' :: rest => some (['0'], rest)
  | _ =>
    let digits := s.takeWhile Char.isDigit
    if digits = [] then none else some (digits, s.dropWhile Char.isDigit)

/-- `[ frac ]`. -/
def readFrac (s : Str) : Option (Str × Str) :=
  match s with
  | '.' :: rest =>
    let digits := rest.takeWhile Char.isDigit
    if digits = [] then none else some (digits, rest.dropWhile Char.isDigit)
  | _ => some ([], s)

/-- The sign of an exponent. -/
def readSign : Str → Bool × Str
  | '+' :: rest => (false, rest)
  | '-' :: rest => (true, rest)
  | s => (false, s)

/-- `[ exp ]`. -/
def readExp (s : Str) : Option (Int × Str) :=
  match s with
  | mark :: rest =>
    if mark = 'e' ∨ mark = 'E' then
      let (negative, rest) := readSign rest
      let digits := rest.takeWhile Char.isDigit
      if digits = [] then none
      else some (signed negative (ofDigits digits), rest.dropWhile Char.isDigit)
    else some (0, s)
  | [] => some (0, [])

/-- `number`. -/
def readNumber (s : Str) : Option (Value × Str) := do
  let (negative, s) := readMinus s
  let (int, s) ← readInt s
  let (digits, s) ← readFrac s
  let (e, s) ← readExp s
  return (.number (signed negative (ofDigits (int ++ digits))) (e - digits.length), s)

/-! ## Strings -/

/-- `4HEXDIG`. -/
def readHex4 : Str → Option (Nat × Str)
  | a :: b :: c :: d :: rest => do
    let u ← hexVal a
    let v ← hexVal b
    let w ← hexVal c
    let x ← hexVal d
    return (((u * 16 + v) * 16 + w) * 16 + x, rest)
  | _ => none

/-- The second half of a surrogate pair. -/
def readLow (high : Nat) : Str → Option (Char × Str)
  | '\\' :: 'u' :: rest => do
    let (low, rest) ← readHex4 rest
    if isLow low then some (ofPair high low, rest) else none
  | _ => none

/-- What stands behind `\u`. -/
def readUnicode (s : Str) : Option (Char × Str) := do
  let (u, rest) ← readHex4 s
  if isHigh u then readLow u rest
  else if isLow u then none
  else some (Char.ofNat u, rest)

/-- What stands behind a backslash. -/
def readEscape : Str → Option (Char × Str)
  | 'u' :: rest => readUnicode rest
  | e :: rest => (unescape e).map fun c => (c, rest)
  | [] => none

/-- `char`. -/
def readChar : Str → Option (Char × Str)
  | '\\' :: rest => readEscape rest
  | c :: rest => if c = '"' ∨ c.toNat < 0x20 then none else some (c, rest)
  | [] => none

/-- `*char` and the closing quotation mark, of at most so many characters. -/
def readChars : Nat → Str → Option (Str × Str)
  | 0, _ => none
  | _ + 1, '"' :: rest => some ([], rest)
  | n + 1, s => do
    let (c, rest) ← readChar s
    let (cs, rest) ← readChars n rest
    return (c :: cs, rest)

/-- A string behind its opening quotation mark. -/
def readString (s : Str) : Option (Str × Str) := readChars (s.length + 1) s

/-! ## Values -/

mutual

/-- `value`. -/
def readValue : Nat → Str → Option (Value × Str)
  | 0, _ => none
  | n + 1, s =>
    match s with
    | '"' :: rest => (readString rest).map fun r => (.string r.1, r.2)
    | '[' :: rest =>
      match skipWs rest with
      | ']' :: rest => some (.array [], rest)
      | s => (readItems n s).map fun r => (.array r.1, r.2)
    | '{' :: rest =>
      match skipWs rest with
      | '}' :: rest => some (.object [], rest)
      | s => (readMembers n s).map fun r => (.object r.1, r.2)
    | 'n' :: 'u' :: 'l' :: 'l' :: rest => some (.null, rest)
    | 't' :: 'r' :: 'u' :: 'e' :: rest => some (.bool true, rest)
    | 'f' :: 'a' :: 'l' :: 's' :: 'e' :: rest => some (.bool false, rest)
    | _ => readNumber s

/-- The values of an array and its closing bracket. -/
def readItems : Nat → Str → Option (List Value × Str)
  | 0, _ => none
  | n + 1, s => do
    let (v, rest) ← readValue n s
    match skipWs rest with
    | ',' :: rest => do
      let (vs, rest) ← readItems n (skipWs rest)
      return (v :: vs, rest)
    | ']' :: rest => some ([v], rest)
    | _ => none

/-- The members of an object and its closing brace. -/
def readMembers : Nat → Str → Option (List (Str × Value) × Str)
  | 0, _ => none
  | n + 1, s =>
    match s with
    | '"' :: rest => do
      let (key, rest) ← readString rest
      match skipWs rest with
      | ':' :: rest => do
        let (v, rest) ← readValue n (skipWs rest)
        match skipWs rest with
        | ',' :: rest => do
          let (ms, rest) ← readMembers n (skipWs rest)
          return ((key, v) :: ms, rest)
        | '}' :: rest => some ([(key, v)], rest)
        | _ => none
      | _ => none
    | _ => none

end

/-- A document, and nothing behind it. -/
def parse (s : Str) : Option Value :=
  match readValue (2 * s.length) (skipWs s) with
  | some (v, rest) => if skipWs rest = [] then some v else none
  | none => none

/-! ## Soundness -/

lemma exists_skipWs (s : Str) : ∃ ws, Blank ws ∧ s = ws ++ skipWs s :=
  ⟨s.takeWhile isWs, fun _ hc => List.mem_takeWhile_imp hc, List.takeWhile_append_dropWhile.symm⟩

lemma isDigit_takeWhile (s : Str) : (s.takeWhile Char.isDigit).all Char.isDigit = true := by
  rw [List.all_eq_true]
  exact fun c hc => List.mem_takeWhile_imp hc

lemma readMinus_sound {s rest : Str} {negative : Bool} (h : readMinus s = (negative, rest)) :
    ∃ minus, s = minus ++ rest ∧
      ((minus = [] ∧ negative = false) ∨ (minus = ['-'] ∧ negative = true)) := by
  unfold readMinus at h
  split at h
  · obtain ⟨rfl, rfl⟩ := Prod.mk.inj h
    exact ⟨['-'], rfl, Or.inr ⟨rfl, rfl⟩⟩
  · obtain ⟨rfl, rfl⟩ := Prod.mk.inj h
    exact ⟨[], rfl, Or.inl ⟨rfl, rfl⟩⟩

lemma readInt_sound {s int rest : Str} (h : readInt s = some (int, rest)) :
    s = int ++ rest ∧ IntText int := by
  unfold readInt at h
  split at h
  · obtain ⟨rfl, rfl⟩ := Prod.mk.inj (Option.some.inj h)
    exact ⟨rfl, Or.inl rfl⟩
  · rename_i hzero
    dsimp only at h
    split at h
    · simp at h
    · rename_i hne
      obtain ⟨rfl, rfl⟩ := Prod.mk.inj (Option.some.inj h)
      refine ⟨List.takeWhile_append_dropWhile.symm, Or.inr ⟨hne, isDigit_takeWhile s, ?_⟩⟩
      intro hhead
      cases s with
      | nil => exact hne rfl
      | cons c s =>
        rw [List.takeWhile_cons] at hhead
        split at hhead
        · obtain rfl := Option.some.inj hhead
          exact hzero s rfl
        · simp at hhead

lemma readFrac_sound {s digits rest : Str} (h : readFrac s = some (digits, rest)) :
    ∃ frac, s = frac ++ rest ∧ FracText frac digits := by
  unfold readFrac at h
  split at h
  · rename_i tail
    dsimp only at h
    split at h
    · simp at h
    · rename_i hne
      obtain ⟨rfl, rfl⟩ := Prod.mk.inj (Option.some.inj h)
      refine ⟨'.' :: tail.takeWhile Char.isDigit, ?_, Or.inr ⟨rfl, hne, isDigit_takeWhile tail⟩⟩
      rw [List.cons_append, List.takeWhile_append_dropWhile]
  · obtain ⟨rfl, rfl⟩ := Prod.mk.inj (Option.some.inj h)
    exact ⟨[], rfl, Or.inl ⟨rfl, rfl⟩⟩

lemma readSign_sound {s rest : Str} {negative : Bool} (h : readSign s = (negative, rest)) :
    ∃ sign, s = sign ++ rest ∧ ((sign = [] ∧ negative = false) ∨
      (sign = ['+'] ∧ negative = false) ∨ (sign = ['-'] ∧ negative = true)) := by
  unfold readSign at h
  split at h
  · obtain ⟨rfl, rfl⟩ := Prod.mk.inj h
    exact ⟨['+'], rfl, Or.inr (Or.inl ⟨rfl, rfl⟩)⟩
  · obtain ⟨rfl, rfl⟩ := Prod.mk.inj h
    exact ⟨['-'], rfl, Or.inr (Or.inr ⟨rfl, rfl⟩)⟩
  · obtain ⟨rfl, rfl⟩ := Prod.mk.inj h
    exact ⟨[], rfl, Or.inl ⟨rfl, rfl⟩⟩

lemma readExp_sound {s rest : Str} {e : Int} (h : readExp s = some (e, rest)) :
    ∃ exp, s = exp ++ rest ∧ ExpText exp e := by
  unfold readExp at h
  split at h
  · rename_i mark tail
    split at h
    · rename_i hmark
      obtain ⟨sign, hsplit, hsign⟩ := readSign_sound
        (show readSign tail = ((readSign tail).1, (readSign tail).2) from rfl)
      dsimp only at h
      split at h
      · simp at h
      · rename_i hne
        obtain ⟨rfl, rfl⟩ := Prod.mk.inj (Option.some.inj h)
        refine ⟨_, ?_, ExpText.present hmark hsign hne (isDigit_takeWhile _)⟩
        rw [List.cons_append, List.append_assoc, List.takeWhile_append_dropWhile, ← hsplit]
    · obtain ⟨rfl, rfl⟩ := Prod.mk.inj (Option.some.inj h)
      exact ⟨[], rfl, ExpText.absent⟩
  · obtain ⟨rfl, rfl⟩ := Prod.mk.inj (Option.some.inj h)
    exact ⟨[], rfl, ExpText.absent⟩

lemma readNumber_sound {s rest : Str} {v : Value} (h : readNumber s = some (v, rest)) :
    ∃ text, s = text ++ rest ∧ Reads text v := by
  unfold readNumber at h
  simp only [Option.bind_eq_bind, Option.bind_eq_some_iff] at h
  obtain ⟨⟨int, s₁⟩, hint, ⟨digits, s₂⟩, hfrac, ⟨e, s₃⟩, hexp, h⟩ := h
  obtain ⟨minus, hminus, hsign⟩ := readMinus_sound
    (show readMinus s = ((readMinus s).1, (readMinus s).2) from rfl)
  obtain ⟨hintText, hintRead⟩ := readInt_sound hint
  obtain ⟨frac, hfracText, hfracRead⟩ := readFrac_sound hfrac
  obtain ⟨exp, hexpText, hexpRead⟩ := readExp_sound hexp
  dsimp only at hfracText hexpText
  obtain ⟨rfl, rfl⟩ := Prod.mk.inj (Option.some.inj h)
  refine ⟨_, ?_, Reads.number (NumberText.mk hsign hintRead hfracRead hexpRead)⟩
  rw [hminus, hintText, hfracText, hexpText]
  simp only [List.append_assoc]

lemma readHex4_sound {s rest : Str} {u : Nat} (h : readHex4 s = some (u, rest)) :
    ∃ text, s = text ++ rest ∧ Hex4 text u := by
  unfold readHex4 at h
  split at h
  · simp only [Option.bind_eq_bind, Option.bind_eq_some_iff] at h
    obtain ⟨u, hu, v, hv, w, hw, x, hx, h⟩ := h
    obtain ⟨rfl, rfl⟩ := Prod.mk.inj (Option.some.inj h)
    exact ⟨_, rfl, Hex4.mk hu hv hw hx⟩
  · simp at h

lemma readUnicode_sound {s rest : Str} {c : Char} (h : readUnicode s = some (c, rest)) :
    ∃ text, '\\' :: 'u' :: s = text ++ rest ∧ CharText text c := by
  unfold readUnicode at h
  rw [Option.bind_eq_bind, Option.bind_eq_some_iff] at h
  obtain ⟨⟨u, s₁⟩, hu, h⟩ := h
  obtain ⟨text, rfl, hhex⟩ := readHex4_sound hu
  dsimp only at h
  split at h
  · rename_i hhigh
    unfold readLow at h
    split at h
    · rw [Option.bind_eq_bind, Option.bind_eq_some_iff] at h
      obtain ⟨⟨v, s₂⟩, hv, h⟩ := h
      obtain ⟨text₂, rfl, hhex₂⟩ := readHex4_sound hv
      dsimp only at h
      split at h
      · rename_i hlow
        obtain ⟨rfl, rfl⟩ := Prod.mk.inj (Option.some.inj h)
        refine ⟨_, ?_, CharText.pair hhex hhex₂ hhigh hlow⟩
        simp only [List.cons_append, List.append_assoc]
      · simp at h
    · simp at h
  · rename_i hhigh
    split at h
    · simp at h
    · rename_i hlow
      obtain ⟨rfl, rfl⟩ := Prod.mk.inj (Option.some.inj h)
      exact ⟨_, rfl, CharText.unicode hhex (by simpa using hhigh) (by simpa using hlow)⟩

lemma readChar_sound {s rest : Str} {c : Char} (h : readChar s = some (c, rest)) :
    ∃ text, s = text ++ rest ∧ CharText text c := by
  unfold readChar at h
  split at h
  · unfold readEscape at h
    split at h
    · exact readUnicode_sound h
    · rw [Option.map_eq_some_iff] at h
      obtain ⟨c', hc', h⟩ := h
      obtain ⟨rfl, rfl⟩ := Prod.mk.inj h
      exact ⟨_, rfl, CharText.escape hc'⟩
    · simp at h
  · rename_i hslash
    split at h
    · simp at h
    · rename_i hplain
      rw [not_or] at hplain
      obtain ⟨rfl, rfl⟩ := Prod.mk.inj (Option.some.inj h)
      refine ⟨[_], rfl, CharText.plain hplain.1 ?_ (by omega)⟩
      rintro rfl
      exact hslash rfl
  · simp at h

lemma readChars_sound {n : Nat} {s cs rest : Str} (h : readChars n s = some (cs, rest)) :
    ∃ text, s = text ++ '"' :: rest ∧ Chars text cs := by
  induction n generalizing s cs with
  | zero => simp [readChars] at h
  | succ n ih =>
    unfold readChars at h
    split at h
    · simp_all
    · obtain ⟨rfl, rfl⟩ := Prod.mk.inj (Option.some.inj h)
      exact ⟨[], rfl, Chars.nil⟩
    · rename_i heq _
      obtain rfl := Nat.succ.inj heq
      simp only [Option.bind_eq_bind, Option.bind_eq_some_iff] at h
      obtain ⟨⟨c, s₁⟩, hc, ⟨cs', s₂⟩, hcs, h⟩ := h
      obtain ⟨text, rfl, hchar⟩ := readChar_sound hc
      obtain ⟨rfl, rfl⟩ := Prod.mk.inj (Option.some.inj h)
      obtain ⟨text₂, rfl, hchars⟩ := ih hcs
      exact ⟨text ++ text₂, by rw [List.append_assoc], Chars.cons hchar hchars⟩

lemma readString_sound {s cs rest : Str} (h : readString s = some (cs, rest)) :
    ∃ text, s = text ++ '"' :: rest ∧ Chars text cs := readChars_sound h

/-- What each of the three readers of one depth accepts. -/
structure Sound (n : Nat) : Prop where
  value : ∀ s v rest, readValue n s = some (v, rest) → ∃ text, s = text ++ rest ∧ Reads text v
  items : ∀ ws s vs rest, Blank ws → readItems n s = some (vs, rest) →
    ∃ text, ws ++ s = text ++ ']' :: rest ∧ Items text vs
  members : ∀ ws s ms rest, Blank ws → readMembers n s = some (ms, rest) →
    ∃ text, ws ++ s = text ++ '}' :: rest ∧ Members text ms

lemma readItems_sound {n : Nat} (ih : Sound n) {ws s rest : Str} {vs : List Value}
    (hws : Blank ws) (h : readItems (n + 1) s = some (vs, rest)) :
    ∃ text, ws ++ s = text ++ ']' :: rest ∧ Items text vs := by
  rw [readItems, Option.bind_eq_bind, Option.bind_eq_some_iff] at h
  obtain ⟨⟨v, s₁⟩, hv, h⟩ := h
  obtain ⟨text, rfl, hreads⟩ := ih.value s v s₁ hv
  obtain ⟨ws₁, hws₁, hs₁⟩ := exists_skipWs s₁
  dsimp only at h
  split at h
  · rename_i tail heq
    rw [Option.bind_eq_bind, Option.bind_eq_some_iff] at h
    obtain ⟨⟨vs', s₂⟩, hvs, h⟩ := h
    obtain ⟨rfl, rfl⟩ := Prod.mk.inj (Option.some.inj h)
    obtain ⟨ws₂, hws₂, htail⟩ := exists_skipWs tail
    obtain ⟨text₂, htext₂, hitems⟩ := ih.items ws₂ _ _ _ hws₂ hvs
    refine ⟨_, ?_, Items.cons hws hreads hws₁ hitems⟩
    rw [hs₁, heq, htail, htext₂]
    simp only [List.append_assoc, List.cons_append]
  · rename_i tail heq
    obtain ⟨rfl, rfl⟩ := Prod.mk.inj (Option.some.inj h)
    refine ⟨_, ?_, Items.last hws hreads hws₁⟩
    rw [hs₁, heq]
    simp only [List.append_assoc]
  · simp at h

lemma readMembers_sound {n : Nat} (ih : Sound n) {ws s rest : Str} {ms : List (Str × Value)}
    (hws : Blank ws) (h : readMembers (n + 1) s = some (ms, rest)) :
    ∃ text, ws ++ s = text ++ '}' :: rest ∧ Members text ms := by
  unfold readMembers at h
  split at h
  · rename_i s₀
    rw [Option.bind_eq_bind, Option.bind_eq_some_iff] at h
    obtain ⟨⟨key, s₁⟩, hkey, h⟩ := h
    obtain ⟨ktext, rfl, hchars⟩ := readString_sound hkey
    obtain ⟨ws₁, hws₁, hs₁⟩ := exists_skipWs s₁
    dsimp only at h
    split at h
    · rename_i s₂ heq₁
      obtain ⟨ws₂, hws₂, hs₂⟩ := exists_skipWs s₂
      rw [Option.bind_eq_bind, Option.bind_eq_some_iff] at h
      obtain ⟨⟨v, s₃⟩, hv, h⟩ := h
      obtain ⟨text, htext, hreads⟩ := ih.value _ v s₃ hv
      obtain ⟨ws₃, hws₃, hs₃⟩ := exists_skipWs s₃
      have hmember := Member.mk hws hchars hws₁ hws₂ hreads hws₃
      dsimp only at h
      split at h
      · rename_i s₄ heq₂
        rw [Option.bind_eq_bind, Option.bind_eq_some_iff] at h
        obtain ⟨⟨ms', s₅⟩, hms, h⟩ := h
        obtain ⟨rfl, rfl⟩ := Prod.mk.inj (Option.some.inj h)
        obtain ⟨ws₄, hws₄, hs₄⟩ := exists_skipWs s₄
        obtain ⟨text₂, htext₂, hmembers⟩ := ih.members ws₄ _ _ _ hws₄ hms
        refine ⟨_, ?_, Members.cons hmember hmembers⟩
        rw [hs₁, heq₁, hs₂, htext, hs₃, heq₂, hs₄, htext₂]
        simp only [List.append_assoc, List.cons_append]
      · rename_i s₄ heq₂
        obtain ⟨rfl, rfl⟩ := Prod.mk.inj (Option.some.inj h)
        refine ⟨_, ?_, Members.last hmember⟩
        rw [hs₁, heq₁, hs₂, htext, hs₃, heq₂]
        simp only [List.append_assoc, List.cons_append]
      · simp at h
    · simp at h
  · simp at h

lemma readValue_sound {n : Nat} (ih : Sound n) {s rest : Str} {v : Value}
    (h : readValue (n + 1) s = some (v, rest)) : ∃ text, s = text ++ rest ∧ Reads text v := by
  unfold readValue at h
  split at h
  · rw [Option.map_eq_some_iff] at h
    obtain ⟨⟨cs, s₁⟩, hstring, h⟩ := h
    obtain ⟨rfl, rfl⟩ := Prod.mk.inj h
    obtain ⟨text, rfl, hchars⟩ := readString_sound hstring
    refine ⟨_, ?_, Reads.string hchars⟩
    simp only [List.append_assoc, List.cons_append, List.nil_append]
  · rename_i s₀
    obtain ⟨ws, hws, hs₀⟩ := exists_skipWs s₀
    split at h
    · rename_i s₁ heq
      obtain ⟨rfl, rfl⟩ := Prod.mk.inj (Option.some.inj h)
      refine ⟨_, ?_, Reads.emptyArray hws⟩
      rw [hs₀, heq]
      simp only [List.append_assoc, List.cons_append, List.nil_append]
    · rw [Option.map_eq_some_iff] at h
      obtain ⟨⟨vs, s₁⟩, hitems, h⟩ := h
      obtain ⟨rfl, rfl⟩ := Prod.mk.inj h
      obtain ⟨text, htext, hreads⟩ := ih.items ws _ _ _ hws hitems
      refine ⟨_, ?_, Reads.array hreads⟩
      rw [hs₀, htext]
      simp only [List.append_assoc, List.cons_append, List.nil_append]
  · rename_i s₀
    obtain ⟨ws, hws, hs₀⟩ := exists_skipWs s₀
    split at h
    · rename_i s₁ heq
      obtain ⟨rfl, rfl⟩ := Prod.mk.inj (Option.some.inj h)
      refine ⟨_, ?_, Reads.emptyObject hws⟩
      rw [hs₀, heq]
      simp only [List.append_assoc, List.cons_append, List.nil_append]
    · rw [Option.map_eq_some_iff] at h
      obtain ⟨⟨ms, s₁⟩, hmembers, h⟩ := h
      obtain ⟨rfl, rfl⟩ := Prod.mk.inj h
      obtain ⟨text, htext, hreads⟩ := ih.members ws _ _ _ hws hmembers
      refine ⟨_, ?_, Reads.object hreads⟩
      rw [hs₀, htext]
      simp only [List.append_assoc, List.cons_append, List.nil_append]
  · obtain ⟨rfl, rfl⟩ := Prod.mk.inj (Option.some.inj h)
    exact ⟨_, rfl, Reads.null⟩
  · obtain ⟨rfl, rfl⟩ := Prod.mk.inj (Option.some.inj h)
    exact ⟨_, rfl, Reads.true⟩
  · obtain ⟨rfl, rfl⟩ := Prod.mk.inj (Option.some.inj h)
    exact ⟨_, rfl, Reads.false⟩
  · exact readNumber_sound h

lemma sound (n : Nat) : Sound n := by
  induction n with
  | zero =>
    refine ⟨?_, ?_, ?_⟩
    · intro s v rest h
      simp [readValue] at h
    · intro ws s vs rest _ h
      simp [readItems] at h
    · intro ws s ms rest _ h
      simp [readMembers] at h
  | succ n ih =>
    exact ⟨fun _ _ _ h => readValue_sound ih h, fun _ _ _ _ hws h => readItems_sound ih hws h,
      fun _ _ _ _ hws h => readMembers_sound ih hws h⟩

/-- **Soundness.**  What the parser accepts is a document that denotes the value it answers. -/
theorem document_of_parse {s : Str} {v : Value} (h : parse s = some v) : Document s v := by
  unfold parse at h
  split at h
  · rename_i v' rest hread
    split at h
    · rename_i hrest
      obtain rfl := Option.some.inj h
      obtain ⟨ws₁, hws₁, hs⟩ := exists_skipWs s
      obtain ⟨text, htext, hreads⟩ := (sound _).value _ _ _ hread
      obtain ⟨ws₂, hws₂, hs₂⟩ := exists_skipWs rest
      rw [hrest, List.append_nil] at hs₂
      rw [htext, hs₂] at hs
      rw [hs]
      exact Document.mk hws₁ hreads hws₂
    · simp at h
  · simp at h

end Json
