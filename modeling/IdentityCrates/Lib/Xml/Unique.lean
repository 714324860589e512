import IdentityCrates.Lib.Xml.Canonical

/-!
# The canonical form is unambiguous

Each piece of a canonical text ends in a way that can be seen: a name at a delimiter, a value at its
quote, an instruction at its first `?>`, content at a closing tag.  So where two texts that begin
with pieces of one kind agree, the pieces agree and so does what follows (`text_isPrefix`), and the
canonical form determines the root that was rendered (`normalRoot_inj`).
-/

namespace Xml

open Text

/-! ## Runs of characters -/

/-- Two runs that end at a character outside `p` end at the same place. -/
lemma run_inj {p : Char → Prop} {a b u v : Str} (ha : ∀ c ∈ a, p c) (hb : ∀ c ∈ b, p c)
    (hu : ∀ c, u.head? = some c → ¬ p c) (hv : ∀ c, v.head? = some c → ¬ p c)
    (h : a ++ u = b ++ v) : a = b ∧ u = v := by
  induction a generalizing b with
  | nil =>
    cases b with
    | nil => exact ⟨rfl, h⟩
    | cons y b =>
      have hhead : u.head? = some y := by
        rw [show u = y :: (b ++ v) from h]
        rfl
      exact absurd (hb y List.mem_cons_self) (hu y hhead)
  | cons x a ih =>
    cases b with
    | nil =>
      have hhead : v.head? = some x := by
        rw [show v = x :: (a ++ u) from h.symm]
        rfl
      exact absurd (ha x List.mem_cons_self) (hv x hhead)
    | cons y b =>
      rw [List.cons_append, List.cons_append, List.cons.injEq] at h
      obtain ⟨hxy, hrest⟩ := h
      obtain ⟨hab, huv⟩ := ih (fun c hc => ha c (List.mem_cons_of_mem _ hc))
        (fun c hc => hb c (List.mem_cons_of_mem _ hc)) hrest
      exact ⟨by rw [hxy, hab], huv⟩

/-- Two names that are followed by delimiters end at the same place. -/
lemma undelimited_inj {a b u v : Str} {x y : Char} (ha : Undelimited a) (hb : Undelimited b)
    (hx : x ∈ delimiters) (hy : y ∈ delimiters) (h : a ++ x :: u = b ++ y :: v) :
    a = b ∧ x = y ∧ u = v := by
  have hhead : ∀ {z : Char} {w : Str}, z ∈ delimiters →
      ∀ c, (z :: w).head? = some c → ¬ c ∉ delimiters := by
    intro z w hz c hc
    rw [List.head?_cons, Option.some.injEq] at hc
    rw [← hc]
    exact not_not.mpr hz
  obtain ⟨hab, huv⟩ := run_inj ha hb (hhead hx) (hhead hy) h
  exact ⟨hab, (List.cons.inj huv).1, (List.cons.inj huv).2⟩

/-- The characters of a text are written so that each can be told from what follows. -/
def PrefixCode (f : Char → Str) : Prop :=
  ∀ c d (r s : Str), f c ++ r = f d ++ s → c = d ∧ r = s

/-- A text under a prefix code ends at a character that no code begins with. -/
lemma flatMap_inj {f : Char → Str} (hf : PrefixCode f) {stop : Char}
    (hstop : ∀ c r (s : Str), f c ++ r ≠ stop :: s) {a b r s : Str}
    (h : a.flatMap f ++ stop :: r = b.flatMap f ++ stop :: s) : a = b ∧ r = s := by
  induction a generalizing b with
  | nil =>
    cases b with
    | nil => exact ⟨rfl, (List.cons.inj h).2⟩
    | cons y b =>
      rw [List.flatMap_cons, List.append_assoc] at h
      exact absurd h.symm (hstop y _ r)
  | cons x a ih =>
    cases b with
    | nil =>
      rw [List.flatMap_cons, List.append_assoc] at h
      exact absurd h (hstop x _ s)
    | cons y b =>
      rw [List.flatMap_cons, List.flatMap_cons, List.append_assoc, List.append_assoc] at h
      obtain ⟨hxy, hrest⟩ := hf x y _ _ h
      obtain ⟨hab, hrs⟩ := ih hrest
      exact ⟨by rw [hxy, hab], hrs⟩

/-- The references of a table can be told from each other and from plain characters. -/
structure Escapes.Unambiguous (table : Escapes) : Prop where
  ampersand : (table.lookup '&').isSome = true
  begins : ∀ e ∈ table, e.2.head? = some '&'
  not_prefix : ∀ e ∈ table, ∀ e' ∈ table, e.2 <+: e'.2 → e = e'

lemma textEscapes_unambiguous : Escapes.Unambiguous textEscapes :=
  ⟨by decide, by decide, by decide⟩

lemma valueEscapes_unambiguous : Escapes.Unambiguous valueEscapes :=
  ⟨by decide, by decide, by decide⟩

lemma mem_of_lookup {table : Escapes} {c : Char} {code : Str} (h : table.lookup c = some code) :
    (c, code) ∈ table := by
  induction table with
  | nil => cases h
  | cons entry table ih =>
    rw [List.lookup_cons] at h
    split at h
    · next heq =>
      cases h
      rw [beq_iff_eq.mp heq]
      exact List.mem_cons_self
    · exact List.mem_cons_of_mem _ (ih h)

/-- A plain character is no ampersand. -/
lemma ne_of_lookup_none {table : Escapes} (ht : table.Unambiguous) {c : Char}
    (h : table.lookup c = none) : c ≠ '&' := by
  intro hc
  have hsome := ht.ampersand
  rw [← hc, h] at hsome
  cases hsome

lemma escape_head {table : Escapes} (ht : table.Unambiguous) {c : Char} {code : Str}
    (h : table.lookup c = some code) (r : Str) : ∃ tail, code ++ r = '&' :: tail := by
  have hhead := ht.begins _ (mem_of_lookup h)
  cases code with
  | nil => cases hhead
  | cons x code =>
    rw [List.head?_cons, Option.some.injEq] at hhead
    exact ⟨code ++ r, by rw [hhead]; rfl⟩

lemma escape_prefixCode {table : Escapes} (ht : table.Unambiguous) :
    PrefixCode (escape table) := by
  intro c d r s h
  unfold escape at h
  cases hc : table.lookup c with
  | none =>
    cases hd : table.lookup d with
    | none =>
      rw [hc, hd] at h
      exact List.cons.inj h
    | some code =>
      rw [hc, hd] at h
      obtain ⟨tail, htail⟩ := escape_head ht hd s
      rw [Option.getD_none, Option.getD_some, htail] at h
      exact absurd (List.cons.inj h).1 (ne_of_lookup_none ht hc)
  | some code =>
    cases hd : table.lookup d with
    | none =>
      rw [hc, hd] at h
      obtain ⟨tail, htail⟩ := escape_head ht hc r
      rw [Option.getD_none, Option.getD_some, htail] at h
      exact absurd (List.cons.inj h).1.symm (ne_of_lookup_none ht hd)
    | some code' =>
      rw [hc, hd, Option.getD_some, Option.getD_some] at h
      have hmem := mem_of_lookup hc
      have hmem' := mem_of_lookup hd
      have hsame : (c, code) = (d, code') := by
        rcases List.prefix_or_prefix_of_prefix (List.prefix_append code r)
            (h ▸ List.prefix_append code' s) with hstart | hstart
        · exact ht.not_prefix _ hmem _ hmem' hstart
        · exact (ht.not_prefix _ hmem' _ hmem hstart).symm
      rw [Prod.mk.injEq] at hsame
      rw [hsame.2] at h
      exact ⟨hsame.1, List.append_cancel_left h⟩

/-- No code begins with a character that is escaped, ampersands apart. -/
lemma escape_ne {table : Escapes} (ht : table.Unambiguous) {stop : Char} (hne : stop ≠ '&')
    (hstop : (table.lookup stop).isSome = true) (c : Char) (r s : Str) :
    escape table c ++ r ≠ stop :: s := by
  intro h
  unfold escape at h
  cases hc : table.lookup c with
  | none =>
    rw [hc] at h
    rw [← (List.cons.inj h).1, hc] at hstop
    cases hstop
  | some code =>
    rw [hc] at h
    obtain ⟨tail, htail⟩ := escape_head ht hc r
    rw [Option.getD_some, htail] at h
    exact hne (List.cons.inj h).1.symm

lemma textCode : PrefixCode (escape textEscapes) := escape_prefixCode textEscapes_unambiguous

lemma textCode_ne (c : Char) (r s : Str) : escape textEscapes c ++ r ≠ '<' :: s :=
  escape_ne textEscapes_unambiguous (by decide) (by decide) c r s

lemma valueCode : PrefixCode (escape valueEscapes) := escape_prefixCode valueEscapes_unambiguous

lemma valueCode_ne (c : Char) (r s : Str) : escape valueEscapes c ++ r ≠ '"' :: s :=
  escape_ne valueEscapes_unambiguous (by decide) (by decide) c r s

/-! ## Start tags and instructions -/

lemma renderedText_inj {xs ys : List (Key × Str)} {r s : Str}
    (h : renderedText xs ++ '>' :: r = renderedText ys ++ '>' :: s) : xs = ys ∧ r = s := by
  induction xs generalizing ys with
  | nil =>
    cases ys with
    | nil => exact ⟨rfl, (List.cons.inj h).2⟩
    | cons y ys => exact absurd (List.cons.inj h).1 (by decide)
  | cons x xs ih =>
    cases ys with
    | nil => exact absurd (List.cons.inj h).1 (by decide)
    | cons y ys =>
      obtain ⟨key, value⟩ := x
      obtain ⟨key', value'⟩ := y
      simp only [renderedText, List.cons_append, List.append_assoc, List.cons.injEq, true_and]
        at h
      obtain ⟨hkey, -, h⟩ := undelimited_inj key.2 key'.2 (by decide) (by decide) h
      obtain ⟨hvalue, h⟩ := flatMap_inj valueCode valueCode_ne (List.cons.inj h).2
      obtain ⟨hrest, hrs⟩ := ih h
      exact ⟨by rw [Subtype.ext hkey, hvalue, hrest], hrs⟩

/-- The data of two instructions ends at the same `?>`. -/
lemma closed_inj {a b r s : Str} (ha : ¬ ['?', '>'] <:+: a) (hb : ¬ ['?', '>'] <:+: b)
    (h : a ++ '?' :: '>' :: r = b ++ '?' :: '>' :: s) : a = b ∧ r = s := by
  induction a generalizing b with
  | nil =>
    rcases b with _ | ⟨x, _ | ⟨y, b⟩⟩
    · exact ⟨rfl, (List.cons.inj (List.cons.inj h).2).2⟩
    · exact absurd (List.cons.inj (List.cons.inj h).2).1 (by decide)
    · obtain ⟨rfl, hrest⟩ := List.cons.inj h
      obtain ⟨rfl, -⟩ := List.cons.inj hrest
      exact absurd ⟨[], b, rfl⟩ hb
  | cons x a ih =>
    rcases b with _ | ⟨y, b⟩
    · rcases a with _ | ⟨y, a⟩
      · exact absurd (List.cons.inj (List.cons.inj h).2).1 (by decide)
      · obtain ⟨rfl, hrest⟩ := List.cons.inj h
        obtain ⟨rfl, -⟩ := List.cons.inj hrest
        exact absurd ⟨[], a, rfl⟩ ha
    · obtain ⟨rfl, hrest⟩ := List.cons.inj h
      obtain ⟨hab, hrs⟩ := ih (fun hinside => ha (hinside.trans (List.suffix_cons x a).isInfix))
        (fun hinside => hb (hinside.trans (List.suffix_cons x b).isInfix)) hrest
      exact ⟨by rw [hab], hrs⟩

lemma instruction_inj {i j : Instruction} {r s : Str} (h : i.text ++ r = j.text ++ s) :
    i = j ∧ r = s := by
  obtain ⟨target, data, hi, hisep, hiopen⟩ := i
  obtain ⟨target', data', hj, hjsep, hjopen⟩ := j
  unfold Instruction.text at h
  simp only [List.cons_append, List.append_assoc, List.cons.injEq, true_and] at h
  cases data with
  | nil =>
    cases data' with
    | nil =>
      obtain ⟨rfl, -, h⟩ := undelimited_inj hi hj (by decide) (by decide) h
      exact ⟨rfl, (List.cons.inj h).2⟩
    | cons y data' =>
      rw [if_pos rfl, if_neg (List.cons_ne_nil y data')] at h
      exact absurd (undelimited_inj hi hj (by decide) (by decide) h).2.1 (by decide)
  | cons x data =>
    cases data' with
    | nil =>
      rw [if_pos rfl, if_neg (List.cons_ne_nil x data)] at h
      exact absurd (undelimited_inj hi hj (by decide) (by decide) h).2.1 (by decide)
    | cons y data' =>
      rw [if_neg (List.cons_ne_nil x data), if_neg (List.cons_ne_nil y data')] at h
      obtain ⟨rfl, -, hrest⟩ := undelimited_inj hi hj (by decide) (by decide) h
      have hclosed : x :: data ++ '?' :: '>' :: r = y :: data' ++ '?' :: '>' :: s := by
        simpa using hrest
      obtain ⟨hdata, hrs⟩ := closed_inj hiopen hjopen hclosed
      exact ⟨by simp only [hdata], hrs⟩

/-! ## Names -/

lemma takeWhile_ne_colon {a : Str} (ha : ':' ∉ a) (b : Str) :
    (a ++ ':' :: b).takeWhile (· ≠ ':') = a := by
  rw [List.takeWhile_append_of_pos]
  · simp
  · intro c hc
    exact decide_eq_true fun heq => ha (heq ▸ hc)

/-- A name is determined by how it is written. -/
lemma Name.text_inj {a b : Name} (h : a.text = b.text) : a = b := by
  obtain ⟨pre, loc, hne, hund, hcolon⟩ := a
  obtain ⟨pre', loc', hne', hund', hcolon'⟩ := b
  rw [List.mem_append, not_or] at hcolon hcolon'
  unfold Name.text at h
  dsimp only at h
  split at h
  · next hpre =>
    split at h
    · next hpre' =>
      subst hpre hpre' h
      rfl
    · rw [h] at hcolon
      exact absurd (List.mem_append_right pre' List.mem_cons_self) hcolon.2
  · split at h
    · rw [← h] at hcolon'
      exact absurd (List.mem_append_right pre List.mem_cons_self) hcolon'.2
    · have hpre := takeWhile_ne_colon hcolon.1 loc
      rw [h, takeWhile_ne_colon hcolon'.1] at hpre
      subst hpre
      have hloc := (List.cons.inj (List.append_cancel_left h)).2
      subst hloc
      rfl

lemma Name.text_ne_nil (name : Name) : name.text ≠ [] := by
  unfold Name.text
  split
  · exact name.loc_ne
  · exact List.append_ne_nil_of_right_ne_nil _ (List.cons_ne_nil _ _)

/-- Behind `<` a name can be told from a closing tag and from an instruction. -/
lemma Name.text_head (name : Name) {c : Char} (hc : c ∈ delimiters) (t s : Str) :
    name.text ++ t ≠ c :: s := by
  intro h
  have hund := name.undelimited_text
  cases htext : name.text with
  | nil => exact name.text_ne_nil htext
  | cons x rest =>
    rw [htext] at h hund
    rw [(List.cons.inj h).1] at hund
    exact hund c List.mem_cons_self hc

/-! ## Content -/

/-- Content does not begin like a closing tag. -/
lemma text_ne_close (y : Canon) (t r : Str) : y.text ++ t ≠ '<' :: '/' :: r := by
  cases y with
  | element name rendered children =>
    intro h
    rw [Canon.text, List.cons_append, List.append_assoc] at h
    exact name.text_head (by decide) _ _ (List.cons.inj h).2
  | char c => exact textCode_ne c t _
  | instruction i =>
    intro h
    exact absurd (List.cons.inj (List.cons.inj h).2).1 (by decide)

lemma renderedText_head (rendered : List (Key × Str)) (t : Str) :
    ∃ x ∈ delimiters, ∃ u, renderedText rendered ++ '>' :: t = x :: u := by
  cases rendered with
  | nil => exact ⟨'>', by decide, t, rfl⟩
  | cons entry rendered => exact ⟨' ', by decide, _, rfl⟩

mutual

/-- Two texts that begin with a piece of content and agree, agree on the piece and on the rest. -/
theorem text_isPrefix (x y : Canon) {r s : Str} (h : x.text ++ r = y.text ++ s) : x = y ∧ r = s := by
  cases x with
  | element name rendered children =>
    cases y with
    | element name' rendered' children' =>
      rw [Canon.text, Canon.text] at h
      simp only [List.cons_append, List.append_assoc, List.cons.injEq, true_and] at h
      obtain ⟨x, hx, u, hu⟩ := renderedText_head rendered
        (canonText children ++ '<' :: '/' :: (name.text ++ '>' :: ([] ++ r)))
      obtain ⟨y, hy, v, hv⟩ := renderedText_head rendered'
        (canonText children' ++ '<' :: '/' :: (name'.text ++ '>' :: ([] ++ s)))
      rw [hu, hv] at h
      obtain ⟨hname, rfl, rfl⟩ := undelimited_inj name.undelimited_text name'.undelimited_text
        hx hy h
      rw [← hv] at hu
      obtain ⟨hrendered, h⟩ := renderedText_inj hu
      obtain ⟨hchildren, h⟩ := canonText_prefix children children' h
      rw [hname] at h
      have hrest := (List.cons.inj (List.append_cancel_left h)).2
      exact ⟨by rw [Name.text_inj hname, hrendered, hchildren], hrest⟩
    | char c => exact absurd h.symm (textCode_ne c s _)
    | instruction j =>
      rw [Canon.text, List.cons_append, List.append_assoc] at h
      exact absurd (List.cons.inj h).2 (name.text_head (by decide) _ _)
  | char c =>
    cases y with
    | element name' rendered' children' => exact absurd h (textCode_ne c r _)
    | char d =>
      obtain ⟨hcd, hrs⟩ := textCode c d r s h
      exact ⟨by rw [hcd], hrs⟩
    | instruction j => exact absurd h (textCode_ne c r _)
  | instruction i =>
    cases y with
    | element name' rendered' children' =>
      rw [Canon.text, Canon.text, List.cons_append, List.append_assoc] at h
      exact absurd (List.cons.inj h).2.symm (name'.text_head (by decide) _ _)
    | char d => exact absurd h.symm (textCode_ne d s _)
    | instruction j =>
      obtain ⟨hij, hrs⟩ := instruction_inj h
      exact ⟨by rw [hij], hrs⟩

/-- Content ends at the closing tag that is not its own. -/
theorem canonText_prefix (xs ys : List Canon) {r s : Str}
    (h : canonText xs ++ '<' :: '/' :: r = canonText ys ++ '<' :: '/' :: s) : xs = ys ∧ r = s := by
  cases xs with
  | nil =>
    cases ys with
    | nil => exact ⟨rfl, (List.cons.inj (List.cons.inj h).2).2⟩
    | cons y ys =>
      rw [canonText, canonText, List.append_assoc] at h
      exact absurd h.symm (text_ne_close y _ r)
  | cons x xs =>
    cases ys with
    | nil =>
      rw [canonText, canonText, List.append_assoc] at h
      exact absurd h (text_ne_close x _ s)
    | cons y ys =>
      rw [canonText, canonText, List.append_assoc, List.append_assoc] at h
      obtain ⟨hxy, h⟩ := text_isPrefix x y h
      obtain ⟨hrest, hrs⟩ := canonText_prefix xs ys h
      exact ⟨by rw [hxy, hrest], hrs⟩

end

/-! ## Documents -/

lemma text_ne_instruction (d : Document) (i : Instruction) (r s : Str) :
    d.normalRoot.text ++ r ≠ i.text ++ s := by
  intro h
  rw [Document.normalRoot, Canon.text, List.cons_append, List.append_assoc] at h
  exact d.name.text_head (by decide) _ _ (List.cons.inj h).2

lemma normalRoot_of_before {d e : Document} {found found' : List Instruction} {r s : Str}
    (h : beforeText found ++ (d.normalRoot.text ++ r)
      = beforeText found' ++ (e.normalRoot.text ++ s)) : d.normalRoot = e.normalRoot := by
  induction found generalizing found' with
  | nil =>
    cases found' with
    | nil => exact (text_isPrefix _ _ h).1
    | cons j found' =>
      rw [beforeText, beforeText, List.flatMap_cons, List.append_assoc, List.append_assoc] at h
      exact absurd h (text_ne_instruction d j _ _)
  | cons i found ih =>
    cases found' with
    | nil =>
      rw [beforeText, beforeText, List.flatMap_cons, List.append_assoc, List.append_assoc] at h
      exact absurd h.symm (text_ne_instruction e i _ _)
    | cons j found' =>
      rw [beforeText, beforeText, List.flatMap_cons, List.flatMap_cons] at h
      simp only [List.append_assoc] at h
      exact ih (List.cons.inj (instruction_inj h).2).2

/-- **The canonical form determines the root.** -/
theorem normalRoot_inj {d e : Document} (h : d.canonical = e.canonical) :
    d.normalRoot = e.normalRoot := normalRoot_of_before h

end Xml
