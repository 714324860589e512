import IdentityCrates.Lib.Related
import IdentityCrates.MdlVerify.Value

/-!
# What the conversion of an element value keeps

`MdlValue` has no tag on a date, so of a text under tag 0 and the same text under tag 1004 the
conversion makes one date.  Everything else is kept: the CBOR of a converted value
(`MdlValue.toCbor`) is the value it was made from, with tag 0 on its dates (`toCbor_of_tryFrom`).  So
two values convert to one exactly when they differ in the tags of their dates only
(`tryFrom_faithful`).

A value fails to convert only where it holds one of a kind that the tree has no constructor for.
-/

namespace MdlVerify

open Cbor (Value Within)
open Text

/-! ## Dates under one tag -/

/-- The tag of a full date becomes that of a timestamp. -/
def dateTag (tag : UInt64) : Value → UInt64
  | .text _ => if tag = tagFullDate then tagTdate else tag
  | _ => tag

mutual

/-- The value with tag 0 on every text that has tag 1004. -/
def withTdate : Value → Value
  | .tag tag value => .tag (dateTag tag value) (withTdate value)
  | .array items => .array (withTdateItems items)
  | .map entries => .map (withTdateEntries entries)
  | v => v

def withTdateItems : List Value → List Value
  | [] => []
  | item :: items => withTdate item :: withTdateItems items

def withTdateEntries : List (Value × Value) → List (Value × Value)
  | [] => []
  | (key, value) :: entries => (withTdate key, withTdate value) :: withTdateEntries entries

end

/-- The tag is one of those that make a date of a text. -/
def IsDateTag (tag : UInt64) : Prop := tag = tagTdate ∨ tag = tagFullDate

lemma dateTag_of_date {tag : UInt64} (h : IsDateTag tag) (s : Str) :
    dateTag tag (.text s) = tagTdate := by
  unfold dateTag
  rcases h with rfl | rfl
  · rw [if_neg (by decide)]
  · rw [if_pos rfl]

lemma dateTag_of_other {tag : UInt64} {value : Value}
    (h : ∀ s, value = .text s → ¬ IsDateTag tag) : dateTag tag value = tag := by
  cases value with
  | text s => exact if_neg fun htag => h s rfl (Or.inr htag)
  | _ => rfl

/-- A tagged value is a date, or it is not. -/
lemma tag_cases (tag : UInt64) (value : Value) :
    (∃ s, value = .text s ∧ IsDateTag tag) ∨ ∀ s, value = .text s → ¬ IsDateTag tag := by
  by_cases hdate : ∃ s, value = .text s ∧ IsDateTag tag
  · exact Or.inl hdate
  · exact Or.inr fun s hs htag => hdate ⟨s, hs, htag⟩

/-- The values are the same but for which of the two date tags stands on a text. -/
def SameButDates (v w : Value) : Prop := withTdate v = withTdate w

lemma withTdateItems_eq (items : List Value) : withTdateItems items = items.map withTdate := by
  induction items with
  | nil => rfl
  | cons item items ih => rw [withTdateItems, ih, List.map_cons]

lemma withTdateEntries_eq (entries : List (Value × Value)) :
    withTdateEntries entries = entries.map fun entry => (withTdate entry.1, withTdate entry.2) := by
  induction entries with
  | nil => rfl
  | cons entry entries ih => rw [withTdateEntries, ih, List.map_cons]

namespace MdlValue

mutual

/-- The CBOR of a converted value, with tag 0 on its dates. -/
def toCbor : MdlValue → Value
  | text s => .text s
  | bytes b => .bytes b
  | int i => .integer i
  | float bits => .float bits
  | bool b => .bool b
  | null => .null
  | date s => .tag tagTdate (.text s)
  | tagged tag value => .tag tag (toCbor value)
  | array items => .array (toCborItems items)
  | map entries => .map (toCborEntries entries)

def toCborItems : List MdlValue → List Value
  | [] => []
  | item :: items => toCbor item :: toCborItems items

def toCborEntries : List (MdlValue × MdlValue) → List (Value × Value)
  | [] => []
  | (key, value) :: entries => (toCbor key, toCbor value) :: toCborEntries entries

end

lemma toCborItems_eq (items : List MdlValue) : toCborItems items = items.map toCbor := by
  induction items with
  | nil => rfl
  | cons item items ih => rw [toCborItems, ih, List.map_cons]

lemma toCborEntries_eq (entries : List (MdlValue × MdlValue)) :
    toCborEntries entries = entries.map fun entry => (toCbor entry.1, toCbor entry.2) := by
  induction entries with
  | nil => rfl
  | cons entry entries ih => rw [toCborEntries, ih, List.map_cons]

/-! ## What the conversion does with each kind -/

/-- A text under one of the two tags is a date. -/
lemma tryFrom_date {tag : UInt64} (h : IsDateTag tag) (s : Str) :
    tryFrom (.tag tag (.text s)) = .ok (.date s) := by
  rw [tryFrom]
  exact if_pos h

/-- What is no date keeps its tag. -/
lemma tryFrom_tagged {tag : UInt64} {value : Value}
    (h : ∀ s, value = .text s → ¬ IsDateTag tag) :
    tryFrom (.tag tag value) = do return .tagged tag (← tryFrom value) := by
  cases value with
  | text s => exact if_neg (h s rfl)
  | _ => rfl

/-- The items of an array are converted one by one, in order. -/
lemma tryFromItems_eq_ok {items : List Value} {out : List MdlValue}
    (h : tryFromItems items = .ok out) :
    List.Forall₂ (fun v m => tryFrom v = .ok m) items out := by
  induction items generalizing out with
  | nil =>
    obtain rfl := Except.ok.inj h
    exact .nil
  | cons item items ih =>
    obtain ⟨first, hfirst, h⟩ := bind_eq_ok h
    obtain ⟨rest, hrest, h⟩ := bind_eq_ok h
    obtain rfl := Except.ok.inj h
    exact .cons hfirst (ih hrest)

lemma tryFromItems_eq_error {items : List Value} {e : MdlError}
    (h : tryFromItems items = .error e) : ∃ item ∈ items, tryFrom item = .error e := by
  induction items with
  | nil => cases h
  | cons item items ih =>
    rcases bind_eq_error h with hfirst | ⟨first, -, h⟩
    · exact ⟨item, List.mem_cons_self, hfirst⟩
    · rcases bind_eq_error h with hrest | ⟨rest, -, h⟩
      · obtain ⟨item', hitem', herror⟩ := ih hrest
        exact ⟨item', List.mem_cons_of_mem item hitem', herror⟩
      · cases h

/-- And so are the entries of a map, the key before the value. -/
lemma tryFromEntries_eq_ok {entries : List (Value × Value)} {out : List (MdlValue × MdlValue)}
    (h : tryFromEntries entries = .ok out) :
    List.Forall₂ (fun v m => tryFrom v.1 = .ok m.1 ∧ tryFrom v.2 = .ok m.2) entries out := by
  induction entries generalizing out with
  | nil =>
    obtain rfl := Except.ok.inj h
    exact .nil
  | cons entry entries ih =>
    obtain ⟨key, hkey, h⟩ := bind_eq_ok h
    obtain ⟨value, hvalue, h⟩ := bind_eq_ok h
    obtain ⟨rest, hrest, h⟩ := bind_eq_ok h
    obtain rfl := Except.ok.inj h
    exact .cons ⟨hkey, hvalue⟩ (ih hrest)

lemma tryFromEntries_eq_error {entries : List (Value × Value)} {e : MdlError}
    (h : tryFromEntries entries = .error e) :
    ∃ entry ∈ entries, tryFrom entry.1 = .error e ∨ tryFrom entry.2 = .error e := by
  induction entries with
  | nil => cases h
  | cons entry entries ih =>
    rcases bind_eq_error h with hkey | ⟨key, -, h⟩
    · exact ⟨entry, List.mem_cons_self, Or.inl hkey⟩
    rcases bind_eq_error h with hvalue | ⟨value, -, h⟩
    · exact ⟨entry, List.mem_cons_self, Or.inr hvalue⟩
    rcases bind_eq_error h with hrest | ⟨rest, -, h⟩
    · obtain ⟨entry', hentry', herror⟩ := ih hrest
      exact ⟨entry', List.mem_cons_of_mem entry hentry', herror⟩
    · cases h

/-! ## Nothing else collapses -/

/-- **The value comes back** from what it was converted to, but for the tags of its dates. -/
theorem toCbor_of_tryFrom (v : Value) {m : MdlValue} (h : tryFrom v = .ok m) :
    m.toCbor = withTdate v := by
  induction v using Value.nesting generalizing m with
  | tag tag value ih =>
    rcases tag_cases tag value with ⟨s, rfl, htag⟩ | hother
    · rw [tryFrom_date htag] at h
      obtain rfl := Except.ok.inj h
      rw [withTdate, dateTag_of_date htag]
      rfl
    · rw [tryFrom_tagged hother] at h
      obtain ⟨inner, hinner, h⟩ := bind_eq_ok h
      obtain rfl := Except.ok.inj h
      rw [withTdate, dateTag_of_other hother, toCbor, ih hinner]
  | array items ih =>
    obtain ⟨out, hout, h⟩ := bind_eq_ok h
    obtain rfl := Except.ok.inj h
    rw [toCbor, toCborItems_eq, withTdate, withTdateItems_eq]
    have hitems : items.map withTdate = out.map toCbor :=
      (tryFromItems_eq_ok hout).map_eq_map fun item hitem _ hconverts =>
        (ih item hitem hconverts).symm
    rw [hitems]
  | map entries ih =>
    obtain ⟨out, hout, h⟩ := bind_eq_ok h
    obtain rfl := Except.ok.inj h
    rw [toCbor, toCborEntries_eq, withTdate, withTdateEntries_eq]
    have hentries : entries.map (fun entry => (withTdate entry.1, withTdate entry.2)) =
        out.map fun entry => (toCbor entry.1, toCbor entry.2) :=
      (tryFromEntries_eq_ok hout).map_eq_map fun entry hentry _ hconverts =>
        Prod.ext ((ih entry hentry).1 hconverts.1).symm ((ih entry hentry).2 hconverts.2).symm
    rw [hentries]
  | other kind => cases h
  | _ =>
    obtain rfl := Except.ok.inj h
    rfl

lemma withTdate_eq_text {v : Value} {s : Str} (h : withTdate v = .text s) : v = .text s := by
  cases v with
  | text t => exact h
  | _ => cases h

lemma tryFromItems_map {f : Value → Value} {items : List Value}
    (h : ∀ item ∈ items, tryFrom (f item) = tryFrom item) :
    tryFromItems (items.map f) = tryFromItems items := by
  induction items with
  | nil => rfl
  | cons item items ih =>
    obtain ⟨hitem, hitems⟩ := List.forall_mem_cons.mp h
    rw [List.map_cons, tryFromItems, tryFromItems, hitem, ih hitems]

lemma tryFromEntries_map {f : Value → Value} {entries : List (Value × Value)}
    (h : ∀ entry ∈ entries, tryFrom (f entry.1) = tryFrom entry.1 ∧
      tryFrom (f entry.2) = tryFrom entry.2) :
    tryFromEntries (entries.map fun entry => (f entry.1, f entry.2)) = tryFromEntries entries := by
  induction entries with
  | nil => rfl
  | cons entry entries ih =>
    obtain ⟨⟨hkey, hvalue⟩, hentries⟩ := List.forall_mem_cons.mp h
    rw [List.map_cons, tryFromEntries, tryFromEntries, hkey, hvalue, ih hentries]

/-- Which of the two tags stands on a date makes no difference. -/
lemma tryFrom_withTdate (v : Value) : tryFrom (withTdate v) = tryFrom v := by
  induction v using Value.nesting with
  | tag tag value ih =>
    rw [withTdate]
    rcases tag_cases tag value with ⟨s, rfl, htag⟩ | hother
    · rw [dateTag_of_date htag, tryFrom_date htag]
      exact tryFrom_date (Or.inl rfl) s
    · rw [dateTag_of_other hother, tryFrom_tagged hother,
        tryFrom_tagged fun s hs => hother s (withTdate_eq_text hs), ih]
  | array items ih =>
    rw [withTdate, withTdateItems_eq, tryFrom, tryFrom, tryFromItems_map ih]
  | map entries ih =>
    rw [withTdate, withTdateEntries_eq, tryFrom, tryFrom, tryFromEntries_map ih]
  | _ => rfl

/-! ## What fails to convert -/

/-- A conversion fails on a nested value of another kind, and says which. -/
lemma within_of_tryFrom_error (v : Value) {e : MdlError} (h : tryFrom v = .error e) :
    ∃ kind, Within (.other kind) v ∧
      e = .unreadable s!"unsupported CBOR in element value: {String.ofList kind}" := by
  induction v using Value.nesting with
  | tag tag value ih =>
    rcases tag_cases tag value with ⟨s, rfl, htag⟩ | hother
    · rw [tryFrom_date htag] at h
      cases h
    · rw [tryFrom_tagged hother] at h
      rcases bind_eq_error h with hvalue | ⟨_, -, h⟩
      · obtain ⟨kind, hwithin, he⟩ := ih hvalue
        exact ⟨kind, .tag hwithin, he⟩
      · cases h
  | array items ih =>
    rcases bind_eq_error h with hitems | ⟨_, -, h⟩
    · obtain ⟨item, hitem, herror⟩ := tryFromItems_eq_error hitems
      obtain ⟨kind, hwithin, he⟩ := ih item hitem herror
      exact ⟨kind, .item hitem hwithin, he⟩
    · cases h
  | map entries ih =>
    rcases bind_eq_error h with hentries | ⟨_, -, h⟩
    · obtain ⟨entry, hentry, herror | herror⟩ := tryFromEntries_eq_error hentries
      · obtain ⟨kind, hwithin, he⟩ := (ih entry hentry).1 herror
        exact ⟨kind, .key hentry hwithin, he⟩
      · obtain ⟨kind, hwithin, he⟩ := (ih entry hentry).2 herror
        exact ⟨kind, .value hentry hwithin, he⟩
    · cases h
  | other kind => exact ⟨kind, .self, (Except.error.inj h).symm⟩
  | _ => cases h

/-- Whatever stands in a value that converts, converts. -/
lemma converts_of_within {u v : Value} (hwithin : Within u v) {m : MdlValue}
    (h : tryFrom v = .ok m) : ∃ n, tryFrom u = .ok n := by
  induction hwithin generalizing m with
  | self => exact ⟨m, h⟩
  | @tag tag value _ ih =>
    rcases tag_cases tag value with ⟨s, rfl, -⟩ | hother
    · exact ih rfl
    · rw [tryFrom_tagged hother] at h
      obtain ⟨inner, hinner, -⟩ := bind_eq_ok h
      exact ih hinner
  | item hmem _ ih =>
    obtain ⟨out, hout, -⟩ := bind_eq_ok h
    obtain ⟨n, -, hn⟩ := (tryFromItems_eq_ok hout).exists_of_mem_left hmem
    exact ih hn
  | key hmem _ ih =>
    obtain ⟨out, hout, -⟩ := bind_eq_ok h
    obtain ⟨n, -, hn⟩ := (tryFromEntries_eq_ok hout).exists_of_mem_left hmem
    exact ih hn.1
  | value hmem _ ih =>
    obtain ⟨out, hout, -⟩ := bind_eq_ok h
    obtain ⟨n, -, hn⟩ := (tryFromEntries_eq_ok hout).exists_of_mem_left hmem
    exact ih hn.2

/-- **The conversion is faithful.**  Values that convert have equal conversions exactly when they
are the same but for the tags of their dates; what a value converts to holds the whole value, in its
order; and a value fails to convert exactly when one of a kind outside the tree stands in it. -/
theorem tryFrom_faithful :
    (∀ v w m n, tryFrom v = .ok m → tryFrom w = .ok n → (m = n ↔ SameButDates v w)) ∧
    (∀ v m, tryFrom v = .ok m → m.toCbor = withTdate v) ∧
    ∀ v, (∃ e, tryFrom v = .error e) ↔ ∃ kind, Within (.other kind) v := by
  refine ⟨fun v w m n hv hw => ⟨?_, ?_⟩, fun v m => toCbor_of_tryFrom v, fun v => ⟨?_, ?_⟩⟩
  · rintro rfl
    exact (toCbor_of_tryFrom v hv).symm.trans (toCbor_of_tryFrom w hw)
  · intro hsame
    have hboth : tryFrom v = tryFrom w := by
      rw [← tryFrom_withTdate v, hsame, tryFrom_withTdate w]
    exact Except.ok.inj (hv.symm.trans (hboth.trans hw))
  · rintro ⟨e, he⟩
    obtain ⟨kind, hwithin, -⟩ := within_of_tryFrom_error v he
    exact ⟨kind, hwithin⟩
  · rintro ⟨kind, hwithin⟩
    cases hv : tryFrom v with
    | error e => exact ⟨e, rfl⟩
    | ok m =>
      obtain ⟨n, hn⟩ := converts_of_within hwithin hv
      cases hn

/-- A map with an integer key, and with one text key for two values of which the second has a tag of
its own. -/
def extensionMap : Value :=
  .map [(.integer 7, .text "integer-keyed".toList), (.text "k".toList, .text "first".toList),
    (.text "k".toList, .tag 99 (.text "second".toList))]

/-- Nothing of the map is lost. -/
theorem tryFrom_faithful_extensionMap :
    ∃ m, tryFrom extensionMap = .ok m ∧ m.toCbor = extensionMap :=
  ⟨_, rfl, tryFrom_faithful.2.1 extensionMap _ rfl⟩

end MdlValue

end MdlVerify
