import TextTemplate.Value.Basic

/-!
# Data of the host

Structured data as a program hands it over, call by call, and the value that it becomes.  Sequences and
tuples become lists, records and maps become maps; a variant becomes a map from its name to what it
holds, one that holds nothing its name.  What is compound is taken piece by piece by a
`ListSerializer` or a `MapSerializer`, which put what they hold under the name of the variant when they
are finished.  Whole numbers beyond 64 bits are refused, and so are names in maps that are no text and
no integer.

The name of a type, the place of a variant among its siblings and the announced length of what is
compound are left out: the first two are never looked at, and the third one only reserves room.
-/

namespace TextTemplate

/-- An integer of a type whose values all fit into 64 bits with a sign. -/
inductive FixedInt where
  | int8 (value : Int8)
  | int16 (value : Int16)
  | int32 (value : Int32)
  | int64 (value : Int64)
  | uint8 (value : UInt8)
  | uint16 (value : UInt16)
  | uint32 (value : UInt32)

/-- An integer widened to 64 bits. -/
def FixedInt.toInt64 : FixedInt → Int64
  | .int8 n => n.toInt64
  | .int16 n => n.toInt64
  | .int32 n => n.toInt64
  | .int64 n => n
  | .uint8 n => n.toUInt64.toInt64
  | .uint16 n => n.toUInt64.toInt64
  | .uint32 n => n.toUInt64.toInt64

mutual

/-- Structured data. -/
inductive Data where
  | bool (value : Bool)
  | int (value : FixedInt)
  /-- An integer of 64 bits without a sign. -/
  | natural (value : UInt64)
  /-- An integer of 128 bits, of a named type. -/
  | wide (type : String)
  /-- A float of 32 bits. -/
  | single (value : Float32)
  | float (value : Float)
  | char (value : Char)
  | text (value : String)
  | bytes (values : List UInt8)
  | none
  | some (value : Data)
  | unit
  | unitStruct
  | unitVariant (variant : String)
  | newtypeStruct (value : Data)
  | newtypeVariant (variant : String) (value : Data)
  | seq (items : List Data)
  | tuple (items : List Data)
  | tupleStruct (items : List Data)
  | tupleVariant (variant : String) (items : List Data)
  | map (parts : List MapPart)
  | struct (fields : List (String × Data))
  | structVariant (variant : String) (fields : List (String × Data))
  /-- Data that refuses to be handed over. -/
  | refused (message : String)

/-- A part of a map: keys and values come one by one. -/
inductive MapPart where
  | key (key : Data)
  | value (value : Data)

end

/-! ## What is compound -/

/-- A payload under the name of its variant, if it has one. -/
def tagged : Option String → Value → Value
  | some name, payload => .map (Dictionary.empty.insert name payload)
  | none, payload => payload

/-- A list that is being taken. -/
structure ListSerializer where
  variant : Option String
  items : List Value

namespace ListSerializer

def new (variant : Option String) : ListSerializer := ⟨variant, []⟩

/-- One more item. -/
def push (s : ListSerializer) (item : Value) : ListSerializer :=
  { s with items := s.items ++ [item] }

def finish (s : ListSerializer) : Value := tagged s.variant (.list s.items)

end ListSerializer

/-- A map that is being taken; a key may be waiting for its value. -/
structure MapSerializer where
  variant : Option String
  entries : Dictionary Value
  pendingKey : Option String

namespace MapSerializer

def new (variant : Option String) : MapSerializer := ⟨variant, .empty, none⟩

/-- One more entry; it takes the place of one under the same key. -/
def insert (s : MapSerializer) (key : String) (value : Value) : MapSerializer :=
  { s with entries := s.entries.insert key value }

/-- The key waits for its value, in the place of any other that does. -/
def await (s : MapSerializer) (key : String) : MapSerializer :=
  { s with pendingKey := some key }

/-- The key that waits; then none does. -/
def takeKey (s : MapSerializer) : Except ValueFault (String × MapSerializer) :=
  match s.pendingKey with
  | some key => .ok (key, { s with pendingKey := none })
  | none => .error .valueWithoutKey

def finish (s : MapSerializer) : Value := tagged s.variant (.map s.entries)

end MapSerializer

namespace Data

/-- A name in a map; an integer stands for its decimal digits. -/
def mapKey : Value → Except ValueFault String
  | .text s => .ok s
  | .int n => .ok (toString n.toInt)
  | v => .error (.keyKind v.kind)

mutual

/-- The value that data becomes. -/
def toValue : Data → Except ValueFault Value
  | .bool b => .ok (.bool b)
  | .int n => .ok (.int n.toInt64)
  | .natural n =>
    match Number.int64? n.toNat with
    | .some m => .ok (.int m)
    | .none => .error (.largeInt n.toNat)
  | .wide type => .error (.custom (type ++ " is not supported"))
  | .single x => .ok (.float x.toFloat)
  | .float x => .ok (.float x)
  | .char c => .ok (.text (String.singleton c))
  | .text s => .ok (.text s)
  | .bytes bs => .ok (.list (bs.map fun b => .int (FixedInt.uint8 b).toInt64))
  | .none => .ok .null
  | .some d => toValue d
  | .unit => .ok .null
  | .unitStruct => .ok .null
  | .unitVariant variant => .ok (.text variant)
  | .newtypeStruct d => toValue d
  | .newtypeVariant variant d => do
    let v ← toValue d
    return tagged (Option.some variant) v
  | .seq items => do
    let s ← takeItems (.new Option.none) items
    return s.finish
  | .tuple items => do
    let s ← takeItems (.new Option.none) items
    return s.finish
  | .tupleStruct items => do
    let s ← takeItems (.new Option.none) items
    return s.finish
  | .tupleVariant variant items => do
    let s ← takeItems (.new (Option.some variant)) items
    return s.finish
  | .map parts => do
    let s ← takeParts (.new Option.none) parts
    return s.finish
  | .struct fields => do
    let s ← takeFields (.new Option.none) fields
    return s.finish
  | .structVariant variant fields => do
    let s ← takeFields (.new (Option.some variant)) fields
    return s.finish
  | .refused message => .error (.custom message)

/-- Takes the items one after the other. -/
def takeItems (s : ListSerializer) : List Data → Except ValueFault ListSerializer
  | [] => .ok s
  | d :: rest => do
    let v ← toValue d
    takeItems (s.push v) rest

/-- Takes the fields of a record one after the other. -/
def takeFields (s : MapSerializer) : List (String × Data) → Except ValueFault MapSerializer
  | [] => .ok s
  | (key, d) :: rest => do
    let v ← toValue d
    takeFields (s.insert key v) rest

/-- Takes the parts of a map one after the other; a value takes the key that came last. -/
def takeParts (s : MapSerializer) : List MapPart → Except ValueFault MapSerializer
  | [] => .ok s
  | .key d :: rest => do
    let v ← toValue d
    let key ← mapKey v
    takeParts (s.await key) rest
  | .value d :: rest => do
    let (key, s) ← s.takeKey
    let v ← toValue d
    takeParts (s.insert key v) rest

end

end Data

end TextTemplate
