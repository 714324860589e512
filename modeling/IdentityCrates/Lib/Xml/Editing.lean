import IdentityCrates.Lib.Xml.Enveloped

/-!
# Editing a signed document

What can be changed in a document without a change of its canonical form.  An `Edit` of some nodes
keeps what is rendered of them when the signature is taken out, and takes the signature out where it
was taken out before; so an edit of the content of one child is an edit of the nodes it is a child
of (`childEdits`).

The edit that matters breaks a text with a comment, which is not rendered: the text at the beginning
of some content can be made to end anywhere (`exists_break`).
-/

namespace Xml

open Text

/-- In `nodes'` and `new'` the same signature is missing, and they are rendered alike. -/
structure Edit (scope : Scope) (nodes nodes' new new' : List Node) : Prop where
  cut : Cut new new'
  same : nodes = nodes' → new = new'
  normal : normalList scope new' = normalList scope nodes'

namespace Edit

variable {scope : Scope} {nodes nodes' new new' : List Node}

lemma cons (node : Node) (h : Edit scope nodes nodes' new new') :
    Edit scope (node :: nodes) (node :: nodes') (node :: new) (node :: new') where
  cut := Cut.later h.cut
  same := fun heq => by rw [h.same (List.cons.inj heq).2]
  normal := by rw [normalList, normalList, h.normal]

/-- A signature in front, which is taken out, stays in front of the edit of the rest. -/
lemma signature {signature : Node} {rest : List Node}
    (hsignature : signature.hasTagName signatureTag = true) (h : Edit scope rest rest new new') :
    Edit scope (signature :: rest) rest (signature :: new) new' where
  cut := by
    rw [h.same rfl]
    exact Cut.here hsignature
  same := fun heq => absurd (congrArg List.length heq) (Nat.succ_ne_self _)
  normal := h.normal

/-- An element whose content is edited. -/
lemma element {name : Name} {namespaces : List Declaration} {attributes : Attributes}
    {children children' : List Node} (rest : List Node)
    (h : Edit (scope.extend namespaces) children children' new new') :
    Edit scope (.element name namespaces attributes children :: rest)
      (.element name namespaces attributes children' :: rest)
      (.element name namespaces attributes new :: rest)
      (.element name namespaces attributes new' :: rest) where
  cut := Cut.inside h.cut
  same := fun heq => by
    rw [h.same (Node.element.inj (List.cons.inj heq).1).2.2.2]
  normal := by rw [normalList, normalList, Xml.normal, Xml.normal, h.normal]

/-- An element whose content is edited, before the place where the signature is taken out. -/
lemma before {name : Name} {namespaces : List Declaration} {attributes : Attributes}
    {children rest rest' : List Node} (hrest : Cut rest rest')
    (h : Edit (scope.extend namespaces) children children new new') :
    Edit scope (.element name namespaces attributes children :: rest)
      (.element name namespaces attributes children :: rest')
      (.element name namespaces attributes new :: rest)
      (.element name namespaces attributes new' :: rest') where
  cut := by
    rw [h.same rfl]
    exact Cut.later hrest
  same := fun heq => by rw [h.same rfl, (List.cons.inj heq).2]
  normal := by rw [normalList, normalList, Xml.normal, Xml.normal, h.normal]

/-- An element the signature is taken out of, before nodes that are edited. -/
lemma behind {name : Name} {namespaces : List Declaration} {attributes : Attributes}
    {children children' rest : List Node} (hcut : Cut children children')
    (h : Edit scope rest rest new new') :
    Edit scope (.element name namespaces attributes children :: rest)
      (.element name namespaces attributes children' :: rest)
      (.element name namespaces attributes children :: new)
      (.element name namespaces attributes children' :: new') where
  cut := by
    rw [h.same rfl]
    exact Cut.inside hcut
  same := fun heq => by
    rw [h.same rfl, (Node.element.inj (List.cons.inj heq).1).2.2.2]
  normal := by rw [normalList, normalList, h.normal]

end Edit

/-! ## Edits of a child -/

/-- The content of the first child with a tag can be edited; it is missing the signature or not, as
the nodes are. -/
def ChildEdits (tag : Str) (scope : Scope) (nodes nodes' : List Node) (name : Name)
    (namespaces : List Declaration) (attributes : Attributes) (children : List Node) : Prop :=
  ∃ children', Cut children children' ∧ (normalList scope nodes').find? (Canon.hasTagName tag)
      = some (.element name (render scope namespaces attributes)
        (normalList (scope.extend namespaces) children'))
    ∧ ∀ new new', Edit (scope.extend namespaces) children children' new new' →
      ∃ all all', Edit scope nodes nodes' all all'
        ∧ all.find? (Node.hasTagName tag) = some (.element name namespaces attributes new)

section

variable {tag : Str} {scope : Scope} {node : Node} {nodes nodes' : List Node} {name : Name}
  {namespaces : List Declaration} {attributes : Attributes} {children : List Node}

/-- The child behind a node without the tag. -/
lemma ChildEdits.cons (hnode : node.hasTagName tag = false)
    (h : ChildEdits tag scope nodes nodes' name namespaces attributes children) :
    ChildEdits tag scope (node :: nodes) (node :: nodes') name namespaces attributes children := by
  obtain ⟨children', hcut, hfind, hedit⟩ := h
  refine ⟨children', hcut, ?_, fun new new' hnew => ?_⟩
  · rw [normalList, find?_normal_of_not hnode, hfind]
  · obtain ⟨all, all', hall, hfound⟩ := hedit new new' hnew
    refine ⟨node :: all, node :: all', hall.cons node, ?_⟩
    rw [List.find?_cons_of_neg (Bool.eq_false_iff.mp hnode), hfound]

/-- The child is the first node. -/
lemma ChildEdits.head (htag : name.loc = tag) (hcut : Cut nodes nodes') :
    ChildEdits tag scope (.element name namespaces attributes children :: nodes)
      (.element name namespaces attributes children :: nodes') name namespaces attributes
      children := by
  refine ⟨children, Cut.none children, ?_, fun new new' hnew => ?_⟩
  · rw [normalList, normal, List.singleton_append,
      List.find?_cons_of_pos (Canon.hasTagName_element.mpr htag)]
  · exact ⟨_, _, hnew.before hcut,
      List.find?_cons_of_pos (hasTagName_element.mpr htag)⟩

/-- Where the first child with the tag stands: it is the first node, or behind one without the
tag. -/
lemma find?_cons_cases {found : Node}
    (h : (node :: nodes).find? (Node.hasTagName tag) = some found) :
    (node = found ∧ found.hasTagName tag = true)
      ∨ (node.hasTagName tag = false ∧ nodes.find? (Node.hasTagName tag) = some found) := by
  cases htag : node.hasTagName tag with
  | true =>
    rw [List.find?_cons_of_pos htag] at h
    cases h
    exact Or.inl ⟨rfl, htag⟩
  | false =>
    rw [List.find?_cons_of_neg (Bool.eq_false_iff.mp htag)] at h
    exact Or.inr ⟨rfl, h⟩

lemma childEdits_refl (hfind : nodes.find? (Node.hasTagName tag)
    = some (.element name namespaces attributes children)) :
    ChildEdits tag scope nodes nodes name namespaces attributes children := by
  induction nodes with
  | nil => cases hfind
  | cons node nodes ih =>
    rcases find?_cons_cases hfind with ⟨rfl, htag⟩ | ⟨hnode, hfind⟩
    · exact ChildEdits.head (hasTagName_element.mp htag) (Cut.none nodes)
    · exact (ih hfind).cons hnode

/-- The child behind a signature that is taken out. -/
lemma ChildEdits.signature {signature : Node} (hsignature : signature.hasTagName signatureTag = true)
    (hnode : signature.hasTagName tag = false)
    (h : ChildEdits tag scope nodes nodes name namespaces attributes children) :
    ChildEdits tag scope (signature :: nodes) nodes name namespaces attributes children := by
  obtain ⟨children', hcut, hfind, hedit⟩ := h
  refine ⟨children', hcut, hfind, fun new new' hnew => ?_⟩
  obtain ⟨all, all', hall, hfound⟩ := hedit new new' hnew
  refine ⟨signature :: all, all', hall.signature hsignature, ?_⟩
  rw [List.find?_cons_of_neg (Bool.eq_false_iff.mp hnode), hfound]

/-- The child behind an element from which the signature is taken out. -/
lemma ChildEdits.behind {other : Name} {declarations : List Declaration} {values : Attributes}
    {inner inner' : List Node} (hinner : Cut inner inner') (hother : ¬ other.loc = tag)
    (h : ChildEdits tag scope nodes nodes name namespaces attributes children) :
    ChildEdits tag scope (.element other declarations values inner :: nodes)
      (.element other declarations values inner' :: nodes) name namespaces attributes children := by
  obtain ⟨children', hcut, hfind, hedit⟩ := h
  refine ⟨children', hcut, ?_, fun new new' hnew => ?_⟩
  · rw [normalList, find?_normal_of_not (Bool.eq_false_iff.mpr (hasTagName_element.not.mpr hother)),
      hfind]
  · obtain ⟨all, all', hall, hfound⟩ := hedit new new' hnew
    refine ⟨_, _, hall.behind hinner, ?_⟩
    rw [List.find?_cons_of_neg (hasTagName_element.not.mpr hother), hfound]

/-- The child from which the signature is taken out. -/
lemma ChildEdits.inside {children' : List Node} (htag : name.loc = tag)
    (hcut : Cut children children') :
    ChildEdits tag scope (.element name namespaces attributes children :: nodes)
      (.element name namespaces attributes children' :: nodes) name namespaces attributes
      children := by
  refine ⟨children', hcut, ?_, fun new new' hnew => ?_⟩
  · rw [normalList, normal, List.singleton_append,
      List.find?_cons_of_pos (Canon.hasTagName_element.mpr htag)]
  · exact ⟨_, _, hnew.element nodes, List.find?_cons_of_pos (hasTagName_element.mpr htag)⟩

/-- **An edit of the content of a child is an edit.**  The induction is on where the signature is
taken out. -/
lemma childEdits (htag : tag ≠ signatureTag) (h : Cut nodes nodes')
    (hfind : nodes.find? (Node.hasTagName tag)
      = some (.element name namespaces attributes children)) (scope : Scope) :
    ChildEdits tag scope nodes nodes' name namespaces attributes children := by
  induction h with
  | none nodes => exact childEdits_refl hfind
  | here hsignature =>
    rcases find?_cons_cases hfind with ⟨rfl, hfound⟩ | ⟨hnode, hfind⟩
    · exact absurd ((hasTagName_element.mp hfound).symm.trans (hasTagName_element.mp hsignature))
        htag
    · exact (childEdits_refl hfind).signature hsignature hnode
  | inside hinner _ =>
    rcases find?_cons_cases hfind with ⟨heq, hfound⟩ | ⟨hnode, hfind⟩
    · cases heq
      exact ChildEdits.inside (hasTagName_element.mp hfound) hinner
    · exact (childEdits_refl hfind).behind hinner (of_decide_eq_false hnode)
  | later hcut ih =>
    rcases find?_cons_cases hfind with ⟨rfl, hfound⟩ | ⟨hnode, hfind⟩
    · exact ChildEdits.head (hasTagName_element.mp hfound) hcut
    · exact (ih hfind).cons hnode

end

/-! ## Breaking a text -/

/-- Each text at the beginning of what is rendered can be taken off, and nodes are left that the
rest is rendered of. -/
def Breaks (scope : Scope) (nodes nodes' : List Node) : Prop :=
  ∀ s, s <+: leading (normalList scope nodes') → ∃ rest rest', Cut rest rest'
    ∧ (nodes = nodes' → rest = rest')
    ∧ normalList scope nodes' = s.map .char ++ normalList scope rest'

section

variable {scope : Scope} {nodes nodes' : List Node}

/-- A text as nodes: a text node is never empty. -/
def textNodes (s : Str) : List Node := if s = [] then [] else [.text s]

lemma normalList_textNodes (s : Str) (nodes : List Node) :
    normalList scope (textNodes s ++ nodes) = s.map .char ++ normalList scope nodes := by
  unfold textNodes
  split
  case isTrue hs =>
    rw [hs]
    rfl
  case isFalse => rw [List.singleton_append, normalList, normal]

lemma Cut.textNodes (h : Cut nodes nodes') (s : Str) :
    Cut (textNodes s ++ nodes) (textNodes s ++ nodes') := by
  unfold Xml.textNodes
  split
  · exact h
  · exact Cut.later h

/-- Nothing can be taken off where no text is. -/
lemma breaks_of_leading (hcut : Cut nodes nodes') (h : leading (normalList scope nodes') = []) :
    Breaks scope nodes nodes' := by
  intro s hs
  rw [h, List.prefix_nil] at hs
  subst hs
  exact ⟨nodes, nodes', hcut, id, rfl⟩

/-- The first text is taken off in part, or as a whole and more behind it. -/
lemma Breaks.text (hcut : Cut nodes nodes') (h : Breaks scope nodes nodes') (t : Str) :
    Breaks scope (.text t :: nodes) (.text t :: nodes') := by
  intro s hs
  rw [normalList, normal, leading_append] at hs
  rcases List.prefix_or_prefix_of_prefix hs (List.prefix_append t _) with ⟨u, rfl⟩ | ⟨u, rfl⟩
  · refine ⟨textNodes u ++ nodes, textNodes u ++ nodes', hcut.textNodes u, fun heq => ?_, ?_⟩
    · rw [(List.cons.inj heq).2]
    · rw [normalList_textNodes, normalList, normal, List.map_append, List.append_assoc]
  · rw [List.prefix_append_right_inj] at hs
    obtain ⟨rest, rest', hrest, hsame, hnormal⟩ := h u hs
    refine ⟨rest, rest', hrest, fun heq => hsame (List.cons.inj heq).2, ?_⟩
    rw [normalList, normal, hnormal, List.map_append, List.append_assoc]

lemma Breaks.cons (hcut : Cut nodes nodes') (h : Breaks scope nodes nodes') (node : Node) :
    Breaks scope (node :: nodes) (node :: nodes') := by
  cases node with
  | element name namespaces attributes children =>
    exact breaks_of_leading (Cut.later hcut) rfl
  | text t => exact h.text hcut t
  | comment c =>
    intro s hs
    obtain ⟨rest, rest', hrest, hsame, hnormal⟩ := h s hs
    exact ⟨rest, rest', hrest, fun heq => hsame (List.cons.inj heq).2, hnormal⟩
  | instruction i => exact breaks_of_leading (Cut.later hcut) rfl

lemma breaks_refl (nodes : List Node) : Breaks scope nodes nodes := by
  induction nodes with
  | nil => exact breaks_of_leading (Cut.none []) rfl
  | cons node nodes ih => exact ih.cons (Cut.none nodes) node

lemma breaks (h : Cut nodes nodes') : Breaks scope nodes nodes' := by
  induction h with
  | none nodes => exact breaks_refl nodes
  | @here signature rest hsignature =>
    intro s hs
    obtain ⟨left, left', hleft, hsame, hnormal⟩ := breaks_refl rest s hs
    refine ⟨signature :: left, left', ?_, fun heq => ?_, hnormal⟩
    · rw [hsame rfl]
      exact Cut.here hsignature
    · exact absurd (congrArg List.length heq) (Nat.succ_ne_self _)
  | inside hinner _ => exact breaks_of_leading (Cut.inside hinner) rfl
  | later hcut ih => exact ih.cons hcut _

/-- **The text at the beginning can be made to end anywhere.** -/
lemma exists_break (h : Cut nodes nodes') {s : Str}
    (hstart : s <+: leading (normalList scope nodes')) :
    ∃ new new', Edit scope nodes nodes' new new' ∧ firstText new = s := by
  obtain ⟨rest, rest', hrest, hsame, hnormal⟩ := breaks h s hstart
  refine ⟨textNodes s ++ .comment [] :: rest, textNodes s ++ .comment [] :: rest', ?_, ?_⟩
  · refine ⟨(Cut.later hrest).textNodes s, fun heq => by rw [hsame heq], ?_⟩
    rw [normalList_textNodes, normalList, normal, List.nil_append, hnormal]
  · unfold textNodes
    split
    case isTrue hs => rw [hs]; rfl
    case isFalse => rfl

end

end Xml
