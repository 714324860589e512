import IdentityCrates.Lib.Xml.Unique

/-!
# Documents with an enveloped signature

A signature inside the document it signs covers the canonical form of the document without itself.
`Cut` takes a `Signature` element out of a list of nodes, at any depth, or nothing; what one reader
sees in the full tree is compared with what the canonical form of the rest holds (`Covers`).

A child looked up by its tag, and an attribute of it, are the same on both sides, wherever the
signature stands (`find_covers`, `Covers.attribute?_eq`).  A text is not: it ends where a comment or
the signature begins.  Where the text is followed by neither, it is (`leading_of_uncut`).
-/

namespace Xml

open Text

/-- The local name of a signature. -/
def signatureTag : Str := "Signature".toList

/-- The second list is the first without one `Signature` element, or the first. -/
inductive Cut : List Node → List Node → Prop where
  | none (nodes : List Node) : Cut nodes nodes
  | here {signature : Node} {rest : List Node} :
    signature.hasTagName signatureTag = true → Cut (signature :: rest) rest
  | inside {name : Name} {namespaces : List Declaration} {attributes : Attributes}
    {children children' rest : List Node} : Cut children children' →
    Cut (.element name namespaces attributes children :: rest)
      (.element name namespaces attributes children' :: rest)
  | later {node : Node} {rest rest' : List Node} : Cut rest rest' →
    Cut (node :: rest) (node :: rest')

/-- The second document is the first without an enveloped signature. -/
def Document.Cut (d d' : Document) : Prop :=
  d'.name = d.name ∧ d'.namespaces = d.namespaces ∧ d'.attributes = d.attributes
    ∧ Xml.Cut d.children d'.children

/-- Two documents have the same canonical form, without comments and enveloped signature. -/
def SameCanonical (d e : Document) : Prop :=
  ∃ d' e', d.Cut d' ∧ e.Cut e' ∧ d'.canonical = e'.canonical

/-! ## Lookups in the canonical form -/

namespace Canon

/-- Is the piece an element with this local name? -/
def hasTagName (local_ : Str) : Canon → Bool
  | element name _ _ => name.loc = local_
  | _ => false

/-- The value of an attribute of an element. -/
def attribute? (key : Str) : Canon → Option Str
  | element _ rendered _ => (rendered.find? fun entry => entry.1.1 = key).map Prod.snd
  | _ => none

/-- The content of an element. -/
def children : Canon → List Canon
  | element _ _ children => children
  | _ => []

end Canon

lemma hasTagName_element {tag : Str} {name : Name} {namespaces : List Declaration}
    {attributes : Attributes} {children : List Node} :
    (Node.element name namespaces attributes children).hasTagName tag = true ↔ name.loc = tag :=
  decide_eq_true_iff

lemma Canon.hasTagName_element {tag : Str} {name : Name} {rendered : List (Key × Str)}
    {children : List Canon} :
    (Canon.element name rendered children).hasTagName tag = true ↔ name.loc = tag :=
  decide_eq_true_iff

/-- The characters at the beginning of some content. -/
def leading : List Canon → Str
  | .char c :: pieces => c :: leading pieces
  | _ => []

/-! ## Attributes -/

lemma find?_eq_some_iff {α : Type} {entries : List α} {key : α → Str}
    (hnodup : (entries.map key).Nodup) {k : Str} {entry : α} :
    (entries.find? fun e => key e = k) = some entry ↔ entry ∈ entries ∧ key entry = k := by
  constructor
  · intro h
    exact ⟨List.mem_of_find?_eq_some h,
      of_decide_eq_true (List.find?_some (p := fun e => decide (key e = k)) h)⟩
  · rintro ⟨hmem, rfl⟩
    induction entries with
    | nil => cases hmem
    | cons first entries ih =>
      rw [List.map_cons, List.nodup_cons] at hnodup
      rcases List.mem_cons.mp hmem with rfl | hmem
      · exact List.find?_cons_of_pos (decide_eq_true rfl)
      · have hne : key first ≠ key entry := fun heq =>
          hnodup.1 (heq ▸ List.mem_map_of_mem hmem)
        rw [List.find?_cons_of_neg (by simpa using hne)]
        exact ih hnodup.2 hmem

/-- A lookup by key does not depend on the order. -/
lemma find?_perm {α : Type} {entries entries' : List α} {key : α → Str}
    (hperm : entries'.Perm entries) (hnodup : (entries.map key).Nodup) (k : Str) :
    (entries'.find? fun e => key e = k) = entries.find? fun e => key e = k := by
  have hnodup' : (entries'.map key).Nodup := (hperm.map key).nodup_iff.mpr hnodup
  refine Option.ext fun entry => ?_
  rw [find?_eq_some_iff hnodup', find?_eq_some_iff hnodup, hperm.mem_iff]

lemma declaration_key_prefix (d : Declaration) : "xmlns".toList <+: d.key.1 := by
  unfold Declaration.key
  split
  · exact List.prefix_refl _
  · exact (by decide : "xmlns".toList <+: "xmlns:".toList).trans (List.prefix_append _ _)

/-- The attribute with a given name and no prefix is rendered with its value. -/
lemma find?_render (scope : Scope) (namespaces : List Declaration) (attributes : Attributes)
    {key : Str} (hkey : ¬ "xmlns".toList <+: key) :
    ((render scope namespaces attributes).find? fun entry => entry.1.1 = key).map Prod.snd
      = attributes.get? key := by
  have hdeclarations : ((renderDeclarations scope namespaces).find?
      fun entry => entry.1.1 = key) = none := by
    rw [List.find?_eq_none]
    intro entry hmem
    obtain ⟨d, -, rfl⟩ := List.mem_map.mp hmem
    intro heq
    exact hkey (of_decide_eq_true heq ▸ declaration_key_prefix d)
  rw [render, List.find?_append, hdeclarations, Option.none_or, renderAttributes, List.find?_map,
    Option.map_map]
  unfold Attributes.get?
  refine congrArg _ ?_
  exact find?_perm (List.perm_insertionSort _ _) attributes.nodup key

/-! ## Children -/

/-- A child in the full tree and a child in the canonical form of the rest: the same element, except
for what was taken out of its content. -/
inductive Covers : Option Node → Option Canon → Prop where
  | none : Covers none none
  | some {name : Name} {namespaces : List Declaration} {attributes : Attributes}
    {children children' : List Node} (scope : Scope) : Cut children children' →
    Covers (some (.element name namespaces attributes children))
      (some (.element name (render scope namespaces attributes)
        (normalList (scope.extend namespaces) children')))

lemma find?_normal_of_not {tag : Str} {scope : Scope} {node : Node}
    (h : node.hasTagName tag = false) (pieces : List Canon) :
    (normal scope node ++ pieces).find? (Canon.hasTagName tag)
      = pieces.find? (Canon.hasTagName tag) := by
  cases node with
  | element name namespaces attributes children =>
    rw [normal, List.singleton_append, List.find?_cons_of_neg]
    exact Bool.not_eq_true _ ▸ h
  | text s =>
    rw [normal, List.find?_append, List.find?_eq_none.mpr, Option.none_or]
    intro piece hmem
    obtain ⟨c, -, rfl⟩ := List.mem_map.mp hmem
    exact Bool.false_ne_true
  | comment s => rw [normal, List.nil_append]
  | instruction i =>
    rw [normal, List.singleton_append, List.find?_cons_of_neg]
    exact Bool.false_ne_true

lemma exists_element {tag : Str} {node : Node} (h : node.hasTagName tag = true) :
    ∃ name namespaces attributes children,
      node = .element name namespaces attributes children := by
  cases node with
  | element name namespaces attributes children => exact ⟨_, _, _, _, rfl⟩
  | text s => cases h
  | comment s => cases h
  | instruction i => cases h

/-- A node that is looked for is found in the canonical form at the same place. -/
lemma covers_cons {tag : Str} {scope : Scope} {node : Node} {rest rest' : List Node}
    (hrest : Covers (rest.find? (Node.hasTagName tag))
      ((normalList scope rest').find? (Canon.hasTagName tag))) :
    Covers ((node :: rest).find? (Node.hasTagName tag))
      ((normalList scope (node :: rest')).find? (Canon.hasTagName tag)) := by
  rw [normalList]
  cases htag : node.hasTagName tag with
  | true =>
    obtain ⟨name, namespaces, attributes, children, rfl⟩ := exists_element htag
    rw [List.find?_cons_of_pos htag, normal, List.singleton_append,
      List.find?_cons_of_pos (Canon.hasTagName_element.mpr (hasTagName_element.mp htag))]
    exact Covers.some scope (Cut.none children)
  | false =>
    rw [List.find?_cons_of_neg (by rw [htag]; exact Bool.false_ne_true),
      find?_normal_of_not htag]
    exact hrest

lemma find_covers_refl (tag : Str) (scope : Scope) (nodes : List Node) :
    Covers (nodes.find? (Node.hasTagName tag))
      ((normalList scope nodes).find? (Canon.hasTagName tag)) := by
  induction nodes with
  | nil => exact Covers.none
  | cons node nodes ih => exact covers_cons ih

/-- **A child looked up by its tag is covered.** -/
lemma find_covers {tag : Str} (htag : tag ≠ signatureTag) {nodes nodes' : List Node}
    (h : Cut nodes nodes') (scope : Scope) :
    Covers (nodes.find? (Node.hasTagName tag))
      ((normalList scope nodes').find? (Canon.hasTagName tag)) := by
  induction h generalizing scope with
  | none nodes => exact find_covers_refl tag scope nodes
  | @here signature rest hsignature =>
    have hnot : ¬ signature.hasTagName tag = true := by
      obtain ⟨name, namespaces, attributes, children, rfl⟩ := exists_element hsignature
      intro h
      exact htag ((hasTagName_element.mp h).symm.trans (hasTagName_element.mp hsignature))
    rw [List.find?_cons_of_neg hnot]
    exact find_covers_refl tag scope rest
  | @inside name namespaces attributes children children' rest hchildren _ =>
    rw [normalList, normal, List.singleton_append]
    by_cases hname : name.loc = tag
    · rw [List.find?_cons_of_pos (hasTagName_element.mpr hname),
        List.find?_cons_of_pos (Canon.hasTagName_element.mpr hname)]
      exact Covers.some scope hchildren
    · rw [List.find?_cons_of_neg (hasTagName_element.not.mpr hname),
        List.find?_cons_of_neg (Canon.hasTagName_element.not.mpr hname)]
      exact find_covers_refl tag scope rest
  | later _ ih => exact covers_cons (ih scope)

namespace Covers

variable {node : Option Node} {piece : Option Canon}

/-- An attribute is covered. -/
lemma attribute?_eq (h : Covers node piece) {key : Str} (hkey : ¬ "xmlns".toList <+: key) :
    node.bind (Node.attribute? key) = piece.bind (Canon.attribute? key) := by
  cases h with
  | none => rfl
  | some scope _ => exact (find?_render scope _ _ hkey).symm

/-- A child of the child is covered. -/
lemma children {tag : Str} (htag : tag ≠ signatureTag) (h : Covers node piece) :
    Covers (node.bind fun n => n.children.find? (Node.hasTagName tag))
      (piece.bind fun p => p.children.find? (Canon.hasTagName tag)) := by
  cases h with
  | none => exact Covers.none
  | some scope hcut => exact find_covers htag hcut _

end Covers

/-! ## Texts -/

/-- A node that ends a text in the canonical form too. -/
def Node.endsText : Node → Bool
  | element name _ _ _ => name.loc ≠ signatureTag
  | instruction _ => true
  | _ => false

/-- The nodes behind the first, if that is a text. -/
def behindText : List Node → List Node
  | .text _ :: nodes => nodes
  | nodes => nodes

/-- The text at the beginning ends at an element or an instruction, or with the content, and not at
a comment or a signature. -/
def Uncut (nodes : List Node) : Prop := ∀ node, (behindText nodes).head? = some node →
  node.endsText = true

/-- The text at the beginning. -/
def firstText : List Node → Str
  | .text s :: _ => s
  | _ => []

lemma leading_append (s : Str) (pieces : List Canon) :
    leading (s.map .char ++ pieces) = s ++ leading pieces := by
  induction s with
  | nil => rfl
  | cons c s ih =>
    rw [List.map_cons, List.cons_append, leading, ih]
    rfl

lemma leading_normalList_of_endsText {scope : Scope} {node : Node} (h : node.endsText = true)
    (nodes : List Node) : leading (normalList scope (node :: nodes)) = [] := by
  cases node with
  | element name namespaces attributes children => rfl
  | text s => cases h
  | comment s => cases h
  | instruction i => rfl

/-- No text begins where a node stands that ends texts. -/
lemma leading_of_cut {nodes nodes' : List Node} (h : Cut nodes nodes')
    (hends : ∀ node, nodes.head? = some node → node.endsText = true) (scope : Scope) :
    leading (normalList scope nodes') = [] := by
  cases h with
  | none _ =>
    cases nodes with
    | nil => rfl
    | cons node nodes => exact leading_normalList_of_endsText (hends node rfl) nodes
  | @here signature rest hsignature =>
    obtain ⟨name, namespaces, attributes, children, rfl⟩ := exists_element hsignature
    exact absurd (of_decide_eq_true hsignature) (of_decide_eq_true (hends _ rfl))
  | inside _ => rfl
  | later _ => exact leading_normalList_of_endsText (hends _ rfl) _

/-- The text at the beginning is covered as far as it goes. -/
lemma firstText_isPrefix {nodes nodes' : List Node} (h : Cut nodes nodes') (scope : Scope) :
    firstText nodes <+: leading (normalList scope nodes') := by
  have htext : ∀ (s : Str) (rest : List Node),
      s <+: leading (normalList scope (.text s :: rest)) := by
    intro s rest
    rw [normalList, normal, leading_append]
    exact List.prefix_append s _
  cases nodes with
  | nil => exact List.nil_prefix
  | cons node rest =>
    cases node with
    | text s =>
      cases h with
      | none _ => exact htext s rest
      | here hsignature => cases hsignature
      | later _ => exact htext s _
    | element name namespaces attributes children => exact List.nil_prefix
    | comment s => exact List.nil_prefix
    | instruction i => exact List.nil_prefix

/-- **A text that is not cut is covered.** -/
lemma leading_of_uncut {nodes nodes' : List Node} (h : Cut nodes nodes') (huncut : Uncut nodes)
    (scope : Scope) : leading (normalList scope nodes') = firstText nodes := by
  have htext : ∀ (s : Str) (rest rest' : List Node), Cut rest rest' →
      (∀ node, rest.head? = some node → node.endsText = true) →
      leading (normalList scope (.text s :: rest')) = s := by
    intro s rest rest' hcut hends
    rw [normalList, normal, leading_append, leading_of_cut hcut hends, List.append_nil]
  cases nodes with
  | nil =>
    cases h
    rfl
  | cons node rest =>
    cases node with
    | text s =>
      cases h with
      | none _ => exact htext s rest rest (Cut.none rest) huncut
      | here hsignature => cases hsignature
      | later hcut => exact htext s rest _ hcut huncut
    | element name namespaces attributes children => exact leading_of_cut h huncut scope
    | comment s => exact absurd (huncut _ rfl) Bool.false_ne_true
    | instruction i => exact leading_of_cut h huncut scope

namespace Covers

variable {node : Option Node} {piece : Option Canon}

/-- What a covered child begins with is covered as far as it goes. -/
lemma firstText_isPrefix (h : Covers node piece) :
    firstText (node.elim [] Node.children) <+: leading (piece.elim [] Canon.children) := by
  cases h with
  | none => exact List.nil_prefix
  | some scope hcut => exact Xml.firstText_isPrefix hcut _

/-- What a covered child begins with is covered, if it is not cut. -/
lemma leading_eq (h : Covers node piece) (huncut : Uncut (node.elim [] Node.children)) :
    leading (piece.elim [] Canon.children) = firstText (node.elim [] Node.children) := by
  cases h with
  | none => rfl
  | some scope hcut => exact leading_of_uncut hcut huncut _

end Covers

end Xml
