import IdentityCrates.Lib.Json.Parser

/-!
# Completeness of the parser

Every document is accepted, with the value it denotes (`parse_of_document`), and so a document
denotes one value only (`Document.unique`).

A reader stops where its text ends because of what follows.  Behind a number only a digit, a point
or an exponent mark could still belong to it (`Ends`); every other value ends by itself.
`Answers text value` is what completeness says of one value, in front of anything that `Ends`.
-/

namespace Json

open Text

/-- What may stand behind a number: nothing that could belong to it. -/
def Ends (rest : Str) : Prop :=
  ∀ c ∈ rest.head?, c.isDigit = false ∧ c ≠ '.' ∧ c ≠ 'e' ∧ c ≠ 'E'

/-- No digit stands in front. -/
def NoDigit (rest : Str) : Prop := ∀ c ∈ rest.head?, c.isDigit = false

lemma Ends.nil : Ends [] := fun c hc => absurd hc (by simp)

lemma Ends.cons {c : Char} (h : c.isDigit = false ∧ c ≠ '.' ∧ c ≠ 'e' ∧ c ≠ 'E') (rest : Str) :
    Ends (c :: rest) := by
  intro d hd
  rw [List.head?_cons, Option.mem_some] at hd
  rw [← hd]
  exact h

lemma Ends.noDigit {rest : Str} (h : Ends rest) : NoDigit rest := fun c hc => (h c hc).1

lemma ends_of_isWs {c : Char} (h : isWs c = true) :
    c.isDigit = false ∧ c ≠ '.' ∧ c ≠ 'e' ∧ c ≠ 'E' := by
  simp only [isWs, Bool.or_eq_true, beq_iff_eq] at h
  rcases h with ((rfl | rfl) | rfl) | rfl <;> decide

/-- White space does not belong to a number. -/
lemma Ends.blank {ws rest : Str} (hws : Blank ws) (h : Ends rest) : Ends (ws ++ rest) := by
  cases ws with
  | nil => exact h
  | cons c ws => exact Ends.cons (ends_of_isWs (hws c List.mem_cons_self)) (ws ++ rest)

lemma skipWs_cons {c : Char} (h : isWs c = false) (s : Str) : skipWs (c :: s) = c :: s := by
  rw [skipWs, List.dropWhile_cons_of_neg (by rw [h]; decide)]

lemma skipWs_blank {ws : Str} (h : Blank ws) (s : Str) : skipWs (ws ++ s) = skipWs s :=
  List.dropWhile_append_of_pos h

/-! ## Numbers -/

/-- The digits of a text end where something else stands. -/
lemma takeWhile_digits {digits rest : Str} (h : digits.all Char.isDigit = true)
    (hrest : NoDigit rest) :
    (digits ++ rest).takeWhile Char.isDigit = digits ∧
      (digits ++ rest).dropWhile Char.isDigit = rest := by
  rw [List.all_eq_true] at h
  have hnone : rest.takeWhile Char.isDigit = [] ∧ rest.dropWhile Char.isDigit = rest := by
    cases rest with
    | nil => exact ⟨rfl, rfl⟩
    | cons c rest =>
      have hc : c.isDigit = false := hrest c (by simp)
      exact ⟨List.takeWhile_cons_of_neg (by simp [hc]), List.dropWhile_cons_of_neg (by simp [hc])⟩
  constructor
  · rw [List.takeWhile_append_of_pos h, hnone.1, List.append_nil]
  · rw [List.dropWhile_append_of_pos h, hnone.2]

lemma IntText.head {int : Str} (h : IntText int) : ∃ c tail, int = c :: tail ∧ c.isDigit = true := by
  rcases h with rfl | ⟨hne, hdigits, -⟩
  · exact ⟨'0', [], rfl, rfl⟩
  · obtain ⟨c, tail, rfl⟩ := List.exists_cons_of_ne_nil hne
    rw [List.all_cons, Bool.and_eq_true] at hdigits
    exact ⟨c, tail, rfl, hdigits.1⟩

lemma readInt_append {int rest : Str} (h : IntText int) (hrest : NoDigit rest) :
    readInt (int ++ rest) = some (int, rest) := by
  rcases h with rfl | ⟨hne, hdigits, hzero⟩
  · rfl
  · obtain ⟨htake, hdrop⟩ := takeWhile_digits hdigits hrest
    unfold readInt
    split
    · rename_i tail heq
      have hhead := congrArg List.head? heq
      rw [List.head?_append_of_ne_nil _ hne, List.head?_cons] at hhead
      exact absurd hhead hzero
    · dsimp only
      rw [htake, hdrop, if_neg hne]

lemma readFrac_append {frac digits rest : Str} (h : FracText frac digits) (hrest : NoDigit rest)
    (hpoint : rest.head? ≠ some '.') : readFrac (frac ++ rest) = some (digits, rest) := by
  rcases h with ⟨rfl, rfl⟩ | ⟨rfl, hne, hdigits⟩
  · rw [List.nil_append]
    unfold readFrac
    split
    · exact absurd rfl hpoint
    · rfl
  · obtain ⟨htake, hdrop⟩ := takeWhile_digits hdigits hrest
    show (if (digits ++ rest).takeWhile Char.isDigit = [] then none
      else some ((digits ++ rest).takeWhile Char.isDigit,
        (digits ++ rest).dropWhile Char.isDigit)) = _
    rw [htake, hdrop, if_neg hne]

lemma readSign_append {sign digits rest : Str} {negative : Bool}
    (h : (sign = [] ∧ negative = false) ∨ (sign = ['+'] ∧ negative = false) ∨
      (sign = ['-'] ∧ negative = true)) (hne : digits ≠ [])
    (hdigits : digits.all Char.isDigit = true) :
    readSign (sign ++ (digits ++ rest)) = (negative, digits ++ rest) := by
  rcases h with ⟨rfl, rfl⟩ | ⟨rfl, rfl⟩ | ⟨rfl, rfl⟩
  · obtain ⟨c, tail, rfl⟩ := List.exists_cons_of_ne_nil hne
    rw [List.all_cons, Bool.and_eq_true] at hdigits
    rw [List.nil_append, List.cons_append]
    unfold readSign
    split
    · rename_i heq
      rw [(List.cons.inj heq).1] at hdigits
      exact absurd hdigits.1 (by decide)
    · rename_i heq
      rw [(List.cons.inj heq).1] at hdigits
      exact absurd hdigits.1 (by decide)
    · rfl
  · rfl
  · rfl

lemma readExp_append {exp rest : Str} {e : Int} (h : ExpText exp e) (hrest : Ends rest) :
    readExp (exp ++ rest) = some (e, rest) := by
  cases h with
  | absent =>
    rw [List.nil_append]
    unfold readExp
    split
    · rename_i mark tail
      have hmark := hrest mark (by simp)
      rw [if_neg (by rw [not_or]; exact ⟨hmark.2.2.1, hmark.2.2.2⟩)]
    · rfl
  | @present mark sign digits negative hmark hsign hne hdigits =>
    obtain ⟨htake, hdrop⟩ := takeWhile_digits hdigits hrest.noDigit
    have hread : readSign (sign ++ (digits ++ rest)) = (negative, digits ++ rest) :=
      readSign_append hsign hne hdigits
    rw [List.cons_append, List.append_assoc]
    unfold readExp
    dsimp only
    rw [if_pos hmark, hread]
    dsimp only
    rw [htake, hdrop, if_neg hne]

/-- An exponent starts with its mark. -/
lemma ExpText.follows {exp rest : Str} {e : Int} (h : ExpText exp e) (hrest : Ends rest) :
    NoDigit (exp ++ rest) ∧ (exp ++ rest).head? ≠ some '.' := by
  cases h with
  | absent =>
    rw [List.nil_append]
    exact ⟨hrest.noDigit, fun hpoint => (hrest '.' (by rw [hpoint]; rfl)).2.1 rfl⟩
  | present hmark hsign hne hdigits =>
    rcases hmark with rfl | rfl
    · exact ⟨fun c hc => by rw [← Option.mem_some.mp hc]; rfl, by simp⟩
    · exact ⟨fun c hc => by rw [← Option.mem_some.mp hc]; rfl, by simp⟩

lemma FracText.noDigit {frac digits rest : Str} (h : FracText frac digits)
    (hrest : NoDigit rest) : NoDigit (frac ++ rest) := by
  rcases h with ⟨rfl, -⟩ | ⟨rfl, -, -⟩
  · exact hrest
  · exact fun c hc => by rw [← Option.mem_some.mp hc]; rfl

lemma readMinus_append {minus int rest : Str} {negative : Bool}
    (h : (minus = [] ∧ negative = false) ∨ (minus = ['-'] ∧ negative = true))
    (hint : IntText int) :
    readMinus (minus ++ (int ++ rest)) = (negative, int ++ rest) := by
  rcases h with ⟨rfl, rfl⟩ | ⟨rfl, rfl⟩
  · obtain ⟨c, tail, rfl, hc⟩ := hint.head
    rw [List.nil_append, List.cons_append]
    unfold readMinus
    split
    · rename_i heq
      rw [(List.cons.inj heq).1] at hc
      exact absurd hc (by decide)
    · rfl
  · rfl

lemma readNumber_append {s rest : Str} {m e : Int} (h : NumberText s m e) (hrest : Ends rest) :
    readNumber (s ++ rest) = some (.number m e, rest) := by
  cases h with
  | @mk minus int frac digits exp negative e hminus hint hfrac hexp =>
    obtain ⟨hnoDigit, hpoint⟩ := hexp.follows hrest
    have hreadMinus : readMinus (minus ++ (int ++ (frac ++ (exp ++ rest)))) =
        (negative, int ++ (frac ++ (exp ++ rest))) :=
      readMinus_append hminus hint
    simp only [List.append_assoc]
    unfold readNumber
    rw [hreadMinus]
    dsimp only
    rw [readInt_append hint (hfrac.noDigit hnoDigit), Option.bind_eq_bind, Option.bind_some]
    dsimp only
    rw [readFrac_append hfrac hnoDigit hpoint, Option.bind_eq_bind, Option.bind_some]
    dsimp only
    rw [readExp_append hexp hrest, Option.bind_some]
    rfl

/-- A number starts with a sign or a digit. -/
lemma NumberText.head {s : Str} {m e : Int} (h : NumberText s m e) :
    ∃ c tail, s = c :: tail ∧ (c = '-' ∨ c.isDigit = true) := by
  cases h with
  | mk hminus hint hfrac hexp =>
    rcases hminus with ⟨rfl, -⟩ | ⟨rfl, -⟩
    · obtain ⟨c, tail, rfl, hc⟩ := hint.head
      exact ⟨c, _, rfl, Or.inr hc⟩
    · exact ⟨'-', _, rfl, Or.inl rfl⟩

/-! ## Strings -/

lemma readHex4_append {s rest : Str} {u : Nat} (h : Hex4 s u) :
    readHex4 (s ++ rest) = some (u, rest) := by
  cases h with
  | mk ha hb hc hd =>
    show (hexVal _).bind _ = _
    rw [ha, Option.bind_some]
    show (hexVal _).bind _ = _
    rw [hb, Option.bind_some]
    show (hexVal _).bind _ = _
    rw [hc, Option.bind_some]
    show (hexVal _).bind _ = _
    rw [hd, Option.bind_some]
    rfl

/-- A character of a string is read, and does not look like the end of it. -/
lemma CharText.answers {s : Str} {c : Char} (h : CharText s c) (rest : Str) :
    readChar (s ++ rest) = some (c, rest) ∧ ∃ x tail, s = x :: tail ∧ x ≠ '"' := by
  cases h with
  | plain hquote hslash hcontrol =>
    refine ⟨?_, c, [], rfl, hquote⟩
    show readChar (c :: rest) = some (c, rest)
    unfold readChar
    split
    · rename_i heq
      exact absurd (List.cons.inj heq).1 hslash
    · rename_i heq
      obtain ⟨rfl, rfl⟩ := List.cons.inj heq
      rw [if_neg (by rw [not_or]; exact ⟨hquote, by omega⟩)]
    · simp_all
  | @escape e c h =>
    refine ⟨?_, '\\', _, rfl, by decide⟩
    show readEscape (e :: rest) = some (c, rest)
    unfold readEscape
    split
    · rename_i heq
      rw [(List.cons.inj heq).1] at h
      exact absurd h (by simp [unescape])
    · rename_i heq
      obtain ⟨rfl, rfl⟩ := List.cons.inj heq
      rw [h]
      rfl
    · simp_all
  | @unicode s u h hhigh hlow =>
    refine ⟨?_, '\\', _, rfl, by decide⟩
    show readUnicode (s ++ rest) = _
    rw [readUnicode, readHex4_append h, Option.bind_eq_bind, Option.bind_some]
    dsimp only
    rw [hhigh, hlow]
    rfl
  | @pair s t u v hu hv hhigh hlow =>
    refine ⟨?_, '\\', _, rfl, by decide⟩
    show readUnicode (s ++ '\\' :: 'u' :: t ++ rest) = _
    rw [List.append_assoc, readUnicode, readHex4_append hu, Option.bind_eq_bind, Option.bind_some]
    dsimp only
    rw [hhigh, if_pos rfl]
    show (readHex4 (t ++ rest)).bind _ = _
    rw [readHex4_append hv, Option.bind_some]
    dsimp only
    rw [hlow]
    rfl

lemma readChars_cons {c x : Char} {tail rest : Str} (hx : x ≠ '"')
    (h : readChar (x :: tail) = some (c, rest)) (n : Nat) :
    readChars (n + 1) (x :: tail) = (readChars n rest).map fun r => (c :: r.1, r.2) := by
  rw [readChars]
  · rw [h, Option.bind_eq_bind, Option.bind_some]
    dsimp only
    cases readChars n rest <;> rfl
  · exact fun t heq => hx (List.cons.inj heq).1

lemma Chars.length_le {s cs : Str} (h : Chars s cs) : cs.length ≤ s.length := by
  induction h with
  | nil => exact le_rfl
  | cons hc _ ih =>
    obtain ⟨-, x, tail, rfl, -⟩ := hc.answers []
    simp only [List.length_append, List.length_cons]
    omega

lemma readChars_append {s cs : Str} (h : Chars s cs) (rest : Str) {n : Nat}
    (hn : cs.length < n) : readChars n (s ++ '"' :: rest) = some (cs, rest) := by
  induction h generalizing n with
  | nil =>
    obtain ⟨n, rfl⟩ : ∃ m, n = m + 1 := ⟨n - 1, by omega⟩
    rfl
  | @cons s t cs c hc ht ih =>
    obtain ⟨n, rfl⟩ : ∃ m, n = m + 1 := ⟨n - 1, by omega⟩
    obtain ⟨hread, x, tail, rfl, hx⟩ := hc.answers (t ++ '"' :: rest)
    rw [List.length_cons] at hn
    rw [List.append_assoc]
    rw [List.cons_append] at hread ⊢
    rw [readChars_cons hx hread, ih (by omega)]
    rfl

/-- A string is read up to its closing quotation mark. -/
lemma readString_append {s cs : Str} (h : Chars s cs) (rest : Str) :
    readString (s ++ '"' :: rest) = some (cs, rest) := by
  have hlen := h.length_le
  refine readChars_append h rest ?_
  rw [List.length_append, List.length_cons]
  omega

/-! ## Values -/

/-- A value is read whole in front of anything that ends it. -/
structure Answers (text : Str) (v : Value) : Prop where
  starts : ∃ c tail, text = c :: tail ∧ isWs c = false ∧ c ≠ ']'
  reads : ∀ n rest, 2 * text.length ≤ n → Ends rest →
    readValue n (text ++ rest) = some (v, rest)

/-- The values of an array are read up to its closing bracket. -/
structure AnswersItems (text : Str) (vs : List Value) : Prop where
  starts : ∀ rest, ∃ c tail, skipWs (text ++ rest) = c :: tail ∧ c ≠ ']'
  reads : ∀ n rest, 2 * text.length + 1 ≤ n →
    readItems n (skipWs (text ++ ']' :: rest)) = some (vs, rest)

/-- A member is read up to what follows its value. -/
structure AnswersMember (text : Str) (m : Str × Value) : Prop where
  starts : ∀ rest, ∃ tail, skipWs (text ++ rest) = '"' :: tail
  reads : ∀ n rest, 2 * text.length ≤ n → Ends rest →
    readMembers (n + 1) (skipWs (text ++ rest)) =
      (match skipWs rest with
      | ',' :: rest => do
        let (ms, rest) ← readMembers n (skipWs rest)
        return (m :: ms, rest)
      | '}' :: rest => some ([m], rest)
      | _ => none)

/-- The members of an object are read up to its closing brace. -/
structure AnswersMembers (text : Str) (ms : List (Str × Value)) : Prop where
  starts : ∀ rest, ∃ tail, skipWs (text ++ rest) = '"' :: tail
  reads : ∀ n rest, 2 * text.length + 1 ≤ n →
    readMembers n (skipWs (text ++ '}' :: rest)) = some (ms, rest)

lemma Answers.skipWs_append {text : Str} {v : Value} (h : Answers text v) (rest : Str) :
    skipWs (text ++ rest) = text ++ rest := by
  obtain ⟨c, tail, rfl, hws, -⟩ := h.starts
  exact skipWs_cons hws (tail ++ rest)

lemma answers_number {s : Str} {m e : Int} (h : NumberText s m e) : Answers s (.number m e) := by
  obtain ⟨c, tail, hs, hc⟩ := h.head
  have hstart : isWs c = false ∧ c ≠ ']' ∧
      ∀ n t, readValue (n + 1) (c :: t) = readNumber (c :: t) := by
    rcases hc with rfl | hc
    · exact ⟨rfl, by decide, fun _ _ => rfl⟩
    · obtain ⟨d, hd, rfl⟩ := exists_digitChar hc
      interval_cases d <;> exact ⟨rfl, by decide, fun _ _ => rfl⟩
  refine ⟨⟨c, tail, hs, hstart.1, hstart.2.1⟩, ?_⟩
  intro n rest hn hrest
  obtain ⟨n, rfl⟩ : ∃ k, n = k + 1 := ⟨n - 1, by rw [hs] at hn; simp at hn; omega⟩
  have hread := readNumber_append h hrest
  rw [hs, List.cons_append] at hread ⊢
  rw [hstart.2.2, hread]

lemma answers_string {s cs : Str} (h : Chars s cs) : Answers ('"' :: (s ++ ['"'])) (.string cs) := by
  refine ⟨⟨'"', _, rfl, rfl, by decide⟩, ?_⟩
  intro n rest hn _
  obtain ⟨n, rfl⟩ : ∃ k, n = k + 1 := ⟨n - 1, by simp at hn; omega⟩
  rw [List.cons_append, List.append_assoc]
  show (readString (s ++ '"' :: rest)).map _ = _
  rw [readString_append h rest]
  rfl

lemma readValue_bracket (n : Nat) (s : Str) :
    readValue (n + 1) ('[' :: s) =
      (match skipWs s with
      | ']' :: rest => some (Value.array [], rest)
      | s => (readItems n s).map fun (r : List Value × Str) => (Value.array r.1, r.2)) := rfl

lemma readValue_brace (n : Nat) (s : Str) :
    readValue (n + 1) ('{' :: s) =
      (match skipWs s with
      | '}' :: rest => some (Value.object [], rest)
      | s => (readMembers n s).map fun (r : List (Str × Value) × Str) => (Value.object r.1, r.2)) :=
  rfl

lemma answers_emptyArray {ws : Str} (h : Blank ws) : Answers ('[' :: (ws ++ [']'])) (.array []) := by
  refine ⟨⟨'[', _, rfl, rfl, by decide⟩, ?_⟩
  intro n rest hn _
  obtain ⟨n, rfl⟩ : ∃ k, n = k + 1 := ⟨n - 1, by simp at hn; omega⟩
  rw [List.cons_append, List.append_assoc, List.singleton_append, readValue_bracket]
  rw [skipWs_blank h, skipWs_cons rfl]
  rfl

lemma answers_array {s : Str} {vs : List Value} (h : AnswersItems s vs) :
    Answers ('[' :: (s ++ [']'])) (.array vs) := by
  refine ⟨⟨'[', _, rfl, rfl, by decide⟩, ?_⟩
  intro n rest hn _
  obtain ⟨n, rfl⟩ : ∃ k, n = k + 1 := ⟨n - 1, by simp at hn; omega⟩
  simp only [List.length_cons, List.length_append, List.length_nil] at hn
  obtain ⟨c, tail, hskip, hc⟩ := h.starts (']' :: rest)
  have hitems := h.reads n rest (by omega)
  rw [List.cons_append, List.append_assoc, List.singleton_append, readValue_bracket]
  rw [hskip] at hitems ⊢
  split
  · rename_i heq
    exact absurd (List.cons.inj heq).1 hc
  · rw [hitems]
    rfl

lemma answers_emptyObject {ws : Str} (h : Blank ws) :
    Answers ('{' :: (ws ++ ['}'])) (.object []) := by
  refine ⟨⟨'{', _, rfl, rfl, by decide⟩, ?_⟩
  intro n rest hn _
  obtain ⟨n, rfl⟩ : ∃ k, n = k + 1 := ⟨n - 1, by simp at hn; omega⟩
  rw [List.cons_append, List.append_assoc, List.singleton_append, readValue_brace]
  rw [skipWs_blank h, skipWs_cons rfl]
  rfl

lemma answers_object {s : Str} {ms : List (Str × Value)} (h : AnswersMembers s ms) :
    Answers ('{' :: (s ++ ['}'])) (.object ms) := by
  refine ⟨⟨'{', _, rfl, rfl, by decide⟩, ?_⟩
  intro n rest hn _
  obtain ⟨n, rfl⟩ : ∃ k, n = k + 1 := ⟨n - 1, by simp at hn; omega⟩
  simp only [List.length_cons, List.length_append, List.length_nil] at hn
  obtain ⟨tail, hskip⟩ := h.starts ('}' :: rest)
  have hmembers := h.reads n rest (by omega)
  rw [List.cons_append, List.append_assoc, List.singleton_append, readValue_brace]
  rw [hskip] at hmembers ⊢
  show (readMembers n ('"' :: tail)).map _ = _
  rw [hmembers]
  rfl

/-! ## Items -/

lemma readItems_step {n : Nat} {s rest : Str} {v : Value} (h : readValue n s = some (v, rest)) :
    readItems (n + 1) s =
      (match skipWs rest with
      | ',' :: rest => do
        let (vs, rest) ← readItems n (skipWs rest)
        return (v :: vs, rest)
      | ']' :: rest => some ([v], rest)
      | _ => none) := by
  rw [readItems, h]
  rfl

lemma starts_value {w s : Str} {v : Value} (hw : Blank w) (h : Answers s v) (rest : Str) :
    ∃ c tail, skipWs (w ++ (s ++ rest)) = c :: tail ∧ c ≠ ']' := by
  obtain ⟨c, tail, hs, -, hc⟩ := h.starts
  refine ⟨c, tail ++ rest, ?_, hc⟩
  rw [skipWs_blank hw, h.skipWs_append, hs]
  rfl

lemma answersItems_last {w₁ s w₂ : Str} {v : Value} (h₁ : Blank w₁) (h : Answers s v)
    (h₂ : Blank w₂) : AnswersItems (w₁ ++ (s ++ w₂)) [v] := by
  refine ⟨fun rest => ?_, fun n rest hn => ?_⟩
  · simp only [List.append_assoc]
    exact starts_value h₁ h (w₂ ++ rest)
  · obtain ⟨n, rfl⟩ : ∃ k, n = k + 1 := ⟨n - 1, by omega⟩
    simp only [List.length_append] at hn
    have hends : Ends (w₂ ++ ']' :: rest) := Ends.blank h₂ (Ends.cons (by decide) rest)
    simp only [List.append_assoc]
    rw [skipWs_blank h₁, h.skipWs_append, readItems_step (h.reads n _ (by omega) hends),
      skipWs_blank h₂, skipWs_cons rfl]
    rfl

lemma answersItems_cons {w₁ s w₂ t : Str} {v : Value} {vs : List Value} (h₁ : Blank w₁)
    (h : Answers s v) (h₂ : Blank w₂) (ht : AnswersItems t vs) :
    AnswersItems (w₁ ++ (s ++ (w₂ ++ ',' :: t))) (v :: vs) := by
  refine ⟨fun rest => ?_, fun n rest hn => ?_⟩
  · simp only [List.append_assoc, List.cons_append]
    exact starts_value h₁ h _
  · obtain ⟨n, rfl⟩ : ∃ k, n = k + 1 := ⟨n - 1, by omega⟩
    simp only [List.length_append, List.length_cons] at hn
    have hends : Ends (w₂ ++ ',' :: (t ++ ']' :: rest)) := Ends.blank h₂ (Ends.cons (by decide) _)
    simp only [List.append_assoc, List.cons_append]
    rw [skipWs_blank h₁, h.skipWs_append, readItems_step (h.reads n _ (by omega) hends),
      skipWs_blank h₂, skipWs_cons rfl]
    show (readItems n (skipWs (t ++ ']' :: rest))).bind _ = _
    rw [ht.reads n rest (by omega)]
    rfl

/-! ## Members -/

lemma answersMember_mk {w₁ k w₂ w₃ s w₄ key : Str} {v : Value} (h₁ : Blank w₁)
    (hk : Chars k key) (h₂ : Blank w₂) (h₃ : Blank w₃) (h : Answers s v) (h₄ : Blank w₄) :
    AnswersMember (w₁ ++ ('"' :: (k ++ '"' :: (w₂ ++ ':' :: (w₃ ++ (s ++ w₄)))))) (key, v) := by
  refine ⟨fun rest => ?_, fun n rest hn hrest => ?_⟩
  · rw [List.append_assoc, skipWs_blank h₁, List.cons_append, skipWs_cons rfl]
    exact ⟨_, rfl⟩
  · simp only [List.length_append, List.length_cons] at hn
    simp only [List.append_assoc, List.cons_append]
    rw [skipWs_blank h₁, skipWs_cons rfl]
    show (readString (k ++ '"' :: (w₂ ++ ':' :: (w₃ ++ (s ++ (w₄ ++ rest)))))).bind _ = _
    rw [readString_append hk, Option.bind_some]
    dsimp only
    rw [skipWs_blank h₂, skipWs_cons rfl]
    show (readValue n (skipWs (w₃ ++ (s ++ (w₄ ++ rest))))).bind _ = _
    rw [skipWs_blank h₃, h.skipWs_append, h.reads n _ (by omega) (Ends.blank h₄ hrest),
      Option.bind_some]
    dsimp only
    exact skipWs_blank h₄ rest ▸ rfl

lemma answersMembers_last {s : Str} {m : Str × Value} (h : AnswersMember s m) :
    AnswersMembers s [m] := by
  refine ⟨h.starts, fun n rest hn => ?_⟩
  obtain ⟨n, rfl⟩ : ∃ k, n = k + 1 := ⟨n - 1, by omega⟩
  rw [h.reads n _ (by omega) (Ends.cons (by decide) rest), skipWs_cons rfl]
  rfl

lemma answersMembers_cons {s t : Str} {m : Str × Value} {ms : List (Str × Value)}
    (h : AnswersMember s m) (ht : AnswersMembers t ms) :
    AnswersMembers (s ++ ',' :: t) (m :: ms) := by
  refine ⟨fun rest => ?_, fun n rest hn => ?_⟩
  · rw [List.append_assoc]
    exact h.starts _
  · obtain ⟨n, rfl⟩ : ∃ k, n = k + 1 := ⟨n - 1, by omega⟩
    simp only [List.length_append, List.length_cons] at hn
    rw [List.append_assoc, List.cons_append, h.reads n _ (by omega) (Ends.cons (by decide) _),
      skipWs_cons rfl]
    show (readMembers n (skipWs (t ++ '}' :: rest))).bind _ = _
    rw [ht.reads n rest (by omega)]
    rfl

/-! ## Documents -/

lemma answers_literal {c : Char} {tail : Str} {v : Value} (hws : isWs c = false) (hc : c ≠ ']')
    (h : ∀ n rest, readValue (n + 1) (c :: tail ++ rest) = some (v, rest)) :
    Answers (c :: tail) v := by
  refine ⟨⟨c, tail, rfl, hws, hc⟩, ?_⟩
  intro n rest hn _
  obtain ⟨n, rfl⟩ : ∃ k, n = k + 1 := ⟨n - 1, by simp at hn; omega⟩
  exact h n rest

/-- Along the derivation, every part of a value is read. -/
lemma Reads.answers {s : Str} {v : Value} (h : Reads s v) : Answers s v :=
  @Reads.rec (fun s v _ => Answers s v) (fun s vs _ => AnswersItems s vs)
    (fun s ms _ => AnswersMembers s ms) (fun s m _ => AnswersMember s m)
    (answers_literal rfl (by decide) fun _ _ => rfl)
    (answers_literal rfl (by decide) fun _ _ => rfl)
    (answers_literal rfl (by decide) fun _ _ => rfl)
    answers_number answers_string answers_emptyArray (fun _ ih => answers_array ih)
    answers_emptyObject (fun _ ih => answers_object ih)
    (fun h₁ _ h₂ ih => answersItems_last h₁ ih h₂)
    (fun h₁ _ h₂ _ ih iht => answersItems_cons h₁ ih h₂ iht)
    (fun _ ih => answersMembers_last ih)
    (fun _ _ ih iht => answersMembers_cons ih iht)
    (fun h₁ hk h₂ h₃ _ h₄ ih => answersMember_mk h₁ hk h₂ h₃ ih h₄)
    s v h

/-- **Completeness.**  Every document is accepted with the value it denotes. -/
theorem parse_of_document {s : Str} {v : Value} (h : Document s v) : parse s = some v := by
  cases h with
  | @mk w₁ s w₂ v h₁ h h₂ =>
    have hanswers := h.answers
    have hends : Ends w₂ := by
      have hblank := Ends.blank h₂ Ends.nil
      rwa [List.append_nil] at hblank
    have hskip₂ : skipWs w₂ = [] := List.dropWhile_eq_nil_iff.mpr h₂
    rw [parse, skipWs_blank h₁, hanswers.skipWs_append, hanswers.reads _ w₂ _ hends]
    · dsimp only
      rw [if_pos hskip₂]
    · simp only [List.length_append]
      omega

/-- A document denotes one value only. -/
theorem Document.unique {s : Str} {v v' : Value} (h : Document s v) (h' : Document s v') :
    v = v' :=
  Option.some.inj ((parse_of_document h).symm.trans (parse_of_document h'))

end Json
