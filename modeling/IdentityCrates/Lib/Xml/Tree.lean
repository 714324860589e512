import IdentityCrates.Lib.Text

/-!
# XML trees

An XML document as the tree of nodes that a reader makes of it, with the lookups a program does on
such a tree.  References and character data sections are resolved by then, so that a text is the
characters it stands for.

Names, targets and declarations carry what the grammar says about their characters: none of them
holds a character that ends it in a text.
-/

namespace Xml

open Text

/-- Characters that cannot stand in a name, among them all that follow a name somewhere. -/
def delimiters : List Char :=
  [' ', '\t', '\n', '\r', '<', '>', '=', '"', '\'', '/', '&', '?', '!']

/-- No character of the text is a delimiter. -/
def Undelimited (s : Str) : Prop := ∀ c ∈ s, c ∉ delimiters

instance (s : Str) : Decidable (Undelimited s) := inferInstanceAs (Decidable (∀ c ∈ s, _))

/-- A qualified name: a prefix, which is empty where there is none, and a local part. -/
structure Name where
  pre : Str
  loc : Str
  loc_ne : loc ≠ []
  undelimited : Undelimited (pre ++ loc)
  noColon : ':' ∉ pre ++ loc
  deriving DecidableEq

/-- A name as it is written. -/
def Name.text (name : Name) : Str :=
  if name.pre = [] then name.loc else name.pre ++ ':' :: name.loc

/-- The declaration of a namespace prefix, which is empty for the default namespace. -/
structure Declaration where
  pre : Str
  uri : Str
  undelimited : Undelimited pre
  deriving DecidableEq

/-- The attributes of an element; no two of them have the same name. -/
structure Attributes where
  entries : List (Name × Str)
  nodup : (entries.map fun entry => entry.1.text).Nodup
  deriving DecidableEq

/-- A processing instruction; its data is separated from its target by white space and ends with
the instruction. -/
structure Instruction where
  target : Str
  data : Str
  undelimited : Undelimited target
  separated : data.head? ≠ some ' '
  open_ : ¬ ['?', '>'] <:+: data
  deriving DecidableEq

/-- A node of a document. -/
inductive Node where
  | element (name : Name) (namespaces : List Declaration) (attributes : Attributes)
      (children : List Node)
  | text (s : Str)
  | comment (s : Str)
  | instruction (i : Instruction)

/-- What may stand around the root: comments and processing instructions. -/
inductive Misc where
  | comment (s : Str)
  | instruction (i : Instruction)

/-- A document: its root element and what stands before and after it. -/
structure Document where
  before : List Misc
  name : Name
  namespaces : List Declaration
  attributes : Attributes
  children : List Node
  after : List Misc

/-! ## Lookups -/

/-- The value of the attribute with this name and no prefix. -/
def Attributes.get? (attributes : Attributes) (key : Str) : Option Str :=
  (attributes.entries.find? fun entry => entry.1.text = key).map Prod.snd

namespace Node

/-- Is the node an element with this local name, in whichever namespace? -/
def hasTagName (local_ : Str) : Node → Bool
  | element name _ _ _ => name.loc = local_
  | _ => false

/-- The value of an attribute of an element. -/
def attribute? (key : Str) : Node → Option Str
  | element _ _ attributes _ => attributes.get? key
  | _ => none

/-- The children of an element. -/
def children : Node → List Node
  | element _ _ _ children => children
  | _ => []

/-- The text of an element: its first child, if that is a text. -/
def text? : Node → Option Str
  | element _ _ _ (.text s :: _) => some s
  | _ => none

end Node

end Xml
