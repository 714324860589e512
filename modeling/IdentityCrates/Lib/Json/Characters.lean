import IdentityCrates.Lib.Json.Grammar

/-!
# The characters of a document

No control character but white space stands in a document: a string has to escape them.  A document
can so be handed on as a text that ends at a NUL character.
-/

namespace Json

open Text

/-- A character that may stand in a document: no control character but white space. -/
def Allowed (c : Char) : Prop := isWs c = true ∨ 0x20 ≤ c.toNat

lemma allowed_append {s t : Str} (hs : ∀ c ∈ s, Allowed c) (ht : ∀ c ∈ t, Allowed c) :
    ∀ c ∈ s ++ t, Allowed c := by
  intro c hc
  rcases List.mem_append.mp hc with hc | hc
  · exact hs c hc
  · exact ht c hc

lemma allowed_cons {d : Char} {t : Str} (hd : Allowed d) (ht : ∀ c ∈ t, Allowed c) :
    ∀ c ∈ d :: t, Allowed c := by
  intro c hc
  rcases List.mem_cons.mp hc with rfl | hc
  · exact hd
  · exact ht c hc

lemma allowed_blank {ws : Str} (h : Blank ws) : ∀ c ∈ ws, Allowed c := fun c hc => Or.inl (h c hc)

lemma allowed_digits {s : Str} (h : s.all Char.isDigit = true) : ∀ c ∈ s, Allowed c := by
  intro c hc
  obtain ⟨d, hd, rfl⟩ := exists_digitChar (List.all_eq_true.mp h c hc)
  right
  interval_cases d <;> decide

lemma allowed_nil : ∀ c ∈ ([] : Str), Allowed c := fun _ hc => absurd hc List.not_mem_nil

lemma allowed_intText {s : Str} (h : IntText s) : ∀ c ∈ s, Allowed c := by
  rcases h with rfl | ⟨-, hdigits, -⟩
  · exact allowed_cons (Or.inr (by decide)) allowed_nil
  · exact allowed_digits hdigits

lemma allowed_fracText {s digits : Str} (h : FracText s digits) : ∀ c ∈ s, Allowed c := by
  rcases h with ⟨rfl, -⟩ | ⟨rfl, -, hdigits⟩
  · exact allowed_nil
  · exact allowed_cons (Or.inr (by decide)) (allowed_digits hdigits)

lemma allowed_expText {s : Str} {e : Int} (h : ExpText s e) : ∀ c ∈ s, Allowed c := by
  cases h with
  | absent => exact allowed_nil
  | present hmark hsign hne hdigits =>
    refine allowed_cons ?_ (allowed_append ?_ (allowed_digits hdigits))
    · rcases hmark with rfl | rfl <;> exact Or.inr (by decide)
    · rcases hsign with ⟨rfl, -⟩ | ⟨rfl, -⟩ | ⟨rfl, -⟩
      · exact allowed_nil
      · exact allowed_cons (Or.inr (by decide)) allowed_nil
      · exact allowed_cons (Or.inr (by decide)) allowed_nil

lemma allowed_numberText {s : Str} {m e : Int} (h : NumberText s m e) : ∀ c ∈ s, Allowed c := by
  cases h with
  | mk hminus hint hfrac hexp =>
    refine allowed_append ?_ (allowed_append (allowed_intText hint)
      (allowed_append (allowed_fracText hfrac) (allowed_expText hexp)))
    rcases hminus with ⟨rfl, -⟩ | ⟨rfl, -⟩
    · exact allowed_nil
    · exact allowed_cons (Or.inr (by decide)) allowed_nil

lemma le_of_hexVal {c : Char} {u : Nat} (h : hexVal c = some u) : 0x20 ≤ c.toNat := by
  have hle : ∀ d : Char, 0x20 ≤ d.toNat → d ≤ c → 0x20 ≤ c.toNat := fun d hd hdc =>
    hd.trans (UInt32.le_iff_toNat_le.mp hdc)
  unfold hexVal at h
  split at h
  · rename_i hc
    exact hle '0' (by decide) hc.1
  · split at h
    · rename_i hc
      exact hle 'a' (by decide) hc.1
    · split at h
      · rename_i hc
        exact hle 'A' (by decide) hc.1
      · simp at h

lemma allowed_hex4 {s : Str} {u : Nat} (h : Hex4 s u) : ∀ c ∈ s, Allowed c := by
  cases h with
  | mk ha hb hc hd =>
    exact allowed_cons (Or.inr (le_of_hexVal ha)) (allowed_cons (Or.inr (le_of_hexVal hb))
      (allowed_cons (Or.inr (le_of_hexVal hc)) (allowed_cons (Or.inr (le_of_hexVal hd))
        allowed_nil)))

lemma le_of_unescape {e c : Char} (h : unescape e = some c) : 0x20 ≤ e.toNat := by
  by_contra hlt
  have hne : ∀ d : Char, 0x20 ≤ d.toNat → e ≠ d := by
    intro d hd heq
    rw [heq] at hlt
    exact hlt hd
  unfold unescape at h
  rw [if_neg, if_neg (hne 'b' (by decide)), if_neg (hne 'f' (by decide)),
    if_neg (hne 'n' (by decide)), if_neg (hne 'r' (by decide)), if_neg (hne 't' (by decide))] at h
  · simp at h
  · rintro (heq | heq | heq)
    · exact hne _ (by decide) heq
    · exact hne _ (by decide) heq
    · exact hne _ (by decide) heq

lemma allowed_charText {s : Str} {c : Char} (h : CharText s c) : ∀ d ∈ s, Allowed d := by
  have hslash : Allowed '\\' := Or.inr (by decide)
  have hu : Allowed 'u' := Or.inr (by decide)
  cases h with
  | plain _ _ hcontrol => exact allowed_cons (Or.inr hcontrol) allowed_nil
  | escape h => exact allowed_cons hslash (allowed_cons (Or.inr (le_of_unescape h)) allowed_nil)
  | unicode h _ _ => exact allowed_cons hslash (allowed_cons hu (allowed_hex4 h))
  | pair h h' _ _ =>
    exact allowed_cons hslash (allowed_cons hu (allowed_append (allowed_hex4 h)
      (allowed_cons hslash (allowed_cons hu (allowed_hex4 h')))))

lemma allowed_chars {s cs : Str} (h : Chars s cs) : ∀ c ∈ s, Allowed c := by
  induction h with
  | nil => exact allowed_nil
  | cons hc _ ih => exact allowed_append (allowed_charText hc) ih

/-- Between two brackets. -/
lemma allowed_between {o e : Char} {s : Str} (ho : 0x20 ≤ o.toNat) (h : ∀ c ∈ s, Allowed c)
    (he : 0x20 ≤ e.toNat) : ∀ c ∈ o :: (s ++ [e]), Allowed c :=
  allowed_cons (Or.inr ho) (allowed_append h (allowed_cons (Or.inr he) allowed_nil))

lemma Reads.allowed {s : Str} {v : Value} (h : Reads s v) : ∀ c ∈ s, Allowed c :=
  @Reads.rec (fun s _ _ => ∀ c ∈ s, Allowed c) (fun s _ _ => ∀ c ∈ s, Allowed c)
    (fun s _ _ => ∀ c ∈ s, Allowed c) (fun s _ _ => ∀ c ∈ s, Allowed c)
    (fun _ hc => Or.inr ((by decide : ∀ c ∈ ['n', 'u', 'l', 'l'], 0x20 ≤ c.toNat) _ hc))
    (fun _ hc => Or.inr ((by decide : ∀ c ∈ ['t', 'r', 'u', 'e'], 0x20 ≤ c.toNat) _ hc))
    (fun _ hc => Or.inr ((by decide : ∀ c ∈ ['f', 'a', 'l', 's', 'e'], 0x20 ≤ c.toNat) _ hc))
    allowed_numberText
    (fun h => allowed_between (by decide) (allowed_chars h) (by decide))
    (fun h => allowed_between (by decide) (allowed_blank h) (by decide))
    (fun _ ih => allowed_between (by decide) ih (by decide))
    (fun h => allowed_between (by decide) (allowed_blank h) (by decide))
    (fun _ ih => allowed_between (by decide) ih (by decide))
    (fun h₁ _ h₂ ih => allowed_append (allowed_blank h₁) (allowed_append ih (allowed_blank h₂)))
    (fun h₁ _ h₂ _ ih iht => allowed_append (allowed_blank h₁) (allowed_append ih
      (allowed_append (allowed_blank h₂) (allowed_cons (Or.inr (by decide)) iht))))
    (fun _ ih => ih)
    (fun _ _ ih iht => allowed_append ih (allowed_cons (Or.inr (by decide)) iht))
    (fun h₁ hk h₂ h₃ _ h₄ ih => allowed_append (allowed_blank h₁)
      (allowed_cons (Or.inr (by decide)) (allowed_append (allowed_chars hk)
        (allowed_cons (Or.inr (by decide)) (allowed_append (allowed_blank h₂)
          (allowed_cons (Or.inr (by decide)) (allowed_append (allowed_blank h₃)
            (allowed_append ih (allowed_blank h₄)))))))))
    s v h

/-- A document holds no control character but white space. -/
theorem Document.allowed {s : Str} {v : Value} (h : Document s v) : ∀ c ∈ s, Allowed c := by
  cases h with
  | mk h₁ h h₂ =>
    exact allowed_append (allowed_blank h₁) (allowed_append h.allowed (allowed_blank h₂))

/-- A document holds no NUL character. -/
lemma Document.notMem_nul {s : Str} {v : Value} (h : Document s v) : '\x00' ∉ s := by
  intro hmem
  rcases h.allowed _ hmem with hws | hle
  · exact absurd hws (by decide)
  · exact absurd hle (by decide)

end Json
