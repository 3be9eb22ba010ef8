import TextTemplate.Data.Basic

/-!
# Plain values of the host

Numbers, text, options, lists and maps of a program, which always become a value.  A size that does
not fit becomes the integer of the same 64 bits.
-/

namespace TextTemplate

/-- A plain value. -/
inductive HostValue where
  | bool (value : Bool)
  | int (value : FixedInt)
  | size (value : UInt64)
  /-- A float of 32 bits. -/
  | single (value : Float32)
  | float (value : Float)
  | char (value : Char)
  | text (value : String)
  | unit
  | option (value : Option HostValue)
  | list (items : List HostValue)
  | map (entries : Dictionary HostValue)

namespace HostValue

mutual

/-- The value that a plain value becomes. -/
def toValue : HostValue → Value
  | .bool b => .bool b
  | .int n => .int n.toInt64
  | .size n => .int n.toInt64
  | .single x => .float x.toFloat
  | .float x => .float x
  | .char c => .text (String.singleton c)
  | .text s => .text s
  | .unit => .null
  | .option none => .null
  | .option (some v) => toValue v
  | .list items => .list (toValues items)
  | .map ⟨entries⟩ => .map ⟨toEntries entries⟩

/-- The values of items in order. -/
def toValues : List HostValue → List Value
  | [] => []
  | v :: rest => toValue v :: toValues rest

/-- The values of entries, under their names. -/
def toEntries : List (String × HostValue) → List (String × Value)
  | [] => []
  | (name, v) :: rest => (name, toValue v) :: toEntries rest

end

mutual

/-- A plain value as structured data. -/
def toData : HostValue → Data
  | .bool b => .bool b
  | .int n => .int n
  | .size n => .natural n
  | .single x => .single x
  | .float x => .float x
  | .char c => .char c
  | .text s => .text s
  | .unit => .unit
  | .option none => .none
  | .option (some v) => .some (toData v)
  | .list items => .seq (toItems items)
  | .map ⟨entries⟩ => .map (toParts entries)

/-- Items as structured data. -/
def toItems : List HostValue → List Data
  | [] => []
  | v :: rest => toData v :: toItems rest

/-- Entries as parts of a map. -/
def toParts : List (String × HostValue) → List MapPart
  | [] => []
  | (name, v) :: rest => .key (.text name) :: .value (toData v) :: toParts rest

end

end HostValue

end TextTemplate
