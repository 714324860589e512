import IdentityCrates.Lib.Text

/-!
# The grammar of JSON

RFC 8259, as relations between a text and what it denotes.  `Reads text value` says that the text,
without white space around it, is that value; `Document` allows the white space.

A number is its digits and its power of ten, so that nothing is rounded.  An escaped surrogate that
is not half of a pair denotes no character, and is left out.
-/

namespace Json

open Text

/-- A JSON value.  A number is a whole number times a power of ten. -/
inductive Value where
  | null
  | bool (b : Bool)
  | number (mantissa exponent : Int)
  | string (s : Str)
  | array (items : List Value)
  | object (members : List (Str × Value))

/-! ## White space -/

/-- `ws`: space, tab, line feed and carriage return. -/
def isWs (c : Char) : Bool := c == ' ' || c == '\t' || c == '\n' || c == '\r'

/-- Nothing but white space. -/
def Blank (s : Str) : Prop := ∀ c ∈ s, isWs c = true

/-! ## Numbers -/

/-- `int`: zero, or digits that do not start with it. -/
def IntText (s : Str) : Prop :=
  s = ['0'] ∨ (s ≠ [] ∧ s.all Char.isDigit = true ∧ s.head? ≠ some '0')

/-- `[ frac ]`, with its digits. -/
def FracText (s digits : Str) : Prop :=
  (s = [] ∧ digits = []) ∨ (s = '.' :: digits ∧ digits ≠ [] ∧ digits.all Char.isDigit = true)

/-- An optional sign in front of a number. -/
def signed (negative : Bool) (n : Nat) : Int := if negative then -(n : Int) else n

/-- `[ exp ]`, with its value. -/
inductive ExpText : Str → Int → Prop
  | absent : ExpText [] 0
  | present {mark : Char} {sign digits : Str} {negative : Bool} (hmark : mark = 'e' ∨ mark = 'E')
    (hsign : (sign = [] ∧ negative = false) ∨ (sign = ['+'] ∧ negative = false) ∨
      (sign = ['-'] ∧ negative = true))
    (hne : digits ≠ []) (hdigits : digits.all Char.isDigit = true) :
    ExpText (mark :: (sign ++ digits)) (signed negative (ofDigits digits))

/-- `number`. -/
inductive NumberText : Str → Int → Int → Prop
  | mk {minus int frac digits exp : Str} {negative : Bool} {e : Int}
    (hminus : (minus = [] ∧ negative = false) ∨ (minus = ['-'] ∧ negative = true))
    (hint : IntText int) (hfrac : FracText frac digits) (hexp : ExpText exp e) :
    NumberText (minus ++ (int ++ (frac ++ exp))) (signed negative (ofDigits (int ++ digits)))
      (e - digits.length)

/-! ## Strings -/

/-- `HEXDIG`, in either case. -/
def hexVal (c : Char) : Option Nat :=
  if '0' ≤ c ∧ c ≤ '9' then some (c.toNat - 48)
  else if 'a' ≤ c ∧ c ≤ 'f' then some (c.toNat - 87)
  else if 'A' ≤ c ∧ c ≤ 'F' then some (c.toNat - 55)
  else none

/-- `4HEXDIG`. -/
inductive Hex4 : Str → Nat → Prop
  | mk {a b c d : Char} {u v w x : Nat} (ha : hexVal a = some u) (hb : hexVal b = some v)
    (hc : hexVal c = some w) (hd : hexVal d = some x) :
    Hex4 [a, b, c, d] (((u * 16 + v) * 16 + w) * 16 + x)

/-- The character behind a backslash. -/
def unescape (c : Char) : Option Char :=
  if c = '"' ∨ c = '\\' ∨ c = '/' then some c
  else if c = 'b' then some '\x08'
  else if c = 'f' then some '\x0C'
  else if c = 'n' then some '\n'
  else if c = 'r' then some '\r'
  else if c = 't' then some '\t'
  else none

/-- The first half of a surrogate pair. -/
def isHigh (u : Nat) : Bool := 0xD800 ≤ u && u ≤ 0xDBFF

/-- The second half of a surrogate pair. -/
def isLow (u : Nat) : Bool := 0xDC00 ≤ u && u ≤ 0xDFFF

/-- The character of a surrogate pair. -/
def ofPair (high low : Nat) : Char :=
  Char.ofNat (0x10000 + (high - 0xD800) * 0x400 + (low - 0xDC00))

/-- `char`: a plain character or one of the escapes. -/
inductive CharText : Str → Char → Prop
  | plain {c : Char} (hquote : c ≠ '"') (hslash : c ≠ '\\') (hcontrol : 0x20 ≤ c.toNat) :
    CharText [c] c
  | escape {e c : Char} (h : unescape e = some c) : CharText ['\\', e] c
  | unicode {s : Str} {u : Nat} (h : Hex4 s u) (hhigh : isHigh u = false)
    (hlow : isLow u = false) : CharText ('\\' :: 'u' :: s) (Char.ofNat u)
  | pair {s t : Str} {u v : Nat} (hu : Hex4 s u) (hv : Hex4 t v) (hhigh : isHigh u = true)
    (hlow : isLow v = true) : CharText ('\\' :: 'u' :: (s ++ '\\' :: 'u' :: t)) (ofPair u v)

/-- `*char`. -/
inductive Chars : Str → Str → Prop
  | nil : Chars [] []
  | cons {s t cs : Str} {c : Char} (h : CharText s c) (ht : Chars t cs) : Chars (s ++ t) (c :: cs)

/-! ## Values -/

mutual

/-- `value`. -/
inductive Reads : Str → Value → Prop
  | null : Reads ['n', 'u', 'l', 'l'] .null
  | true : Reads ['t', 'r', 'u', 'e'] (.bool Bool.true)
  | false : Reads ['f', 'a', 'l', 's', 'e'] (.bool Bool.false)
  | number {s : Str} {m e : Int} (h : NumberText s m e) : Reads s (.number m e)
  | string {s cs : Str} (h : Chars s cs) : Reads ('"' :: (s ++ ['"'])) (.string cs)
  | emptyArray {ws : Str} (h : Blank ws) : Reads ('[' :: (ws ++ [']'])) (.array [])
  | array {s : Str} {vs : List Value} (h : Items s vs) : Reads ('[' :: (s ++ [']'])) (.array vs)
  | emptyObject {ws : Str} (h : Blank ws) : Reads ('{' :: (ws ++ ['}'])) (.object [])
  | object {s : Str} {ms : List (Str × Value)} (h : Members s ms) :
    Reads ('{' :: (s ++ ['}'])) (.object ms)

/-- The values of an array, with the commas between them. -/
inductive Items : Str → List Value → Prop
  | last {w₁ s w₂ : Str} {v : Value} (h₁ : Blank w₁) (h : Reads s v) (h₂ : Blank w₂) :
    Items (w₁ ++ (s ++ w₂)) [v]
  | cons {w₁ s w₂ rest : Str} {v : Value} {vs : List Value} (h₁ : Blank w₁) (h : Reads s v)
    (h₂ : Blank w₂) (hrest : Items rest vs) : Items (w₁ ++ (s ++ (w₂ ++ ',' :: rest))) (v :: vs)

/-- The members of an object, with the commas between them. -/
inductive Members : Str → List (Str × Value) → Prop
  | last {s : Str} {m : Str × Value} (h : Member s m) : Members s [m]
  | cons {s rest : Str} {m : Str × Value} {ms : List (Str × Value)} (h : Member s m)
    (hrest : Members rest ms) : Members (s ++ ',' :: rest) (m :: ms)

/-- `member`, with the white space around it. -/
inductive Member : Str → Str × Value → Prop
  | mk {w₁ k w₂ w₃ s w₄ key : Str} {v : Value} (h₁ : Blank w₁) (hk : Chars k key) (h₂ : Blank w₂)
    (h₃ : Blank w₃) (h : Reads s v) (h₄ : Blank w₄) :
    Member (w₁ ++ ('"' :: (k ++ '"' :: (w₂ ++ ':' :: (w₃ ++ (s ++ w₄)))))) (key, v)

end

/-- `JSON-text`. -/
inductive Document : Str → Value → Prop
  | mk {w₁ s w₂ : Str} {v : Value} (h₁ : Blank w₁) (h : Reads s v) (h₂ : Blank w₂) :
    Document (w₁ ++ (s ++ w₂)) v

end Json
