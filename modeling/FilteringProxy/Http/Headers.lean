import FilteringProxy.Text.Utf8

/-! # Header fields

A header map is the list of its fields in the order in which they were added. Names are tokens in
lower case; a value is a row of bytes, and only a value of visible ASCII bytes can be read as text.
What a map says about a name is `values`: its values in order.
-/

namespace FilteringProxy.Http

/-- A character that may stand in a method or in a field name. -/
def isTokenChar (c : Char) : Bool :=
  c.isAlphanum || ("!#$%&'*+-.^_|~" : Text).contains c || c.toNat == 0x60

/-- The field name that a text spells: a token, in lower case. -/
def fieldName? (t : Text) : Option Text :=
  if t ≠ [] ∧ t.length ≤ 65535 ∧ t.all isTokenChar then some t.lower else none

/-- The method that a text spells: a token as it is written. -/
def method? (t : Text) : Option Text :=
  if t ≠ [] ∧ t.all isTokenChar then some t else none

/-- A byte that may stand in a field value: no control except a tab. -/
def isValueByte (b : UInt8) : Bool := b = 9 || (32 ≤ b && b ≠ 127)

def fieldValue? (bytes : Bytes) : Option Bytes :=
  if bytes.all isValueByte then some bytes else none

def isReadableByte (b : UInt8) : Bool := b = 9 || (32 ≤ b && b < 127)

/-- The text of a value, if all of its bytes are readable. -/
def readable? (value : Bytes) : Option Text :=
  if value.all isReadableByte then some (value.map fun b => Char.ofNat b.toNat) else none

/-- A field: a name in lower case and a value. -/
structure Field where
  name : Text
  value : Bytes
  deriving Repr, DecidableEq

/-- The fields of a message in order. -/
structure Headers where
  fields : List Field := []
  deriving Repr, DecidableEq

namespace Headers

def values (h : Headers) (name : Text) : List Bytes :=
  (h.fields.filter (·.name == name)).map (·.value)

def first? (h : Headers) (name : Text) : Option Bytes := (h.values name).head?

def has (h : Headers) (name : Text) : Bool := h.fields.any (·.name == name)

def append (h : Headers) (name : Text) (value : Bytes) : Headers :=
  ⟨h.fields ++ [⟨name, value⟩]⟩

def remove (h : Headers) (name : Text) : Headers :=
  ⟨h.fields.filter (·.name != name)⟩

def replace (h : Headers) (name : Text) (value : Bytes) : Headers :=
  (h.remove name).append name value

/-- The map without those fields of a name whose values satisfy `p`. -/
def removeWhere (h : Headers) (name : Text) (p : Bytes → Bool) : Headers :=
  ⟨h.fields.filter fun f => !(f.name == name && p f.value)⟩

/-- The readable values of a name, in order. -/
def texts (h : Headers) (name : Text) : List Text := (h.values name).filterMap readable?

end Headers

end FilteringProxy.Http
