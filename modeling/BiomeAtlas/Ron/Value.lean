/-! # RON values

RON is a notation for nested data. A `Value` is what one notation stands for, without blanks,
comments and the choice between equivalent spellings. A tuple or a record may be preceded by a name.

Whole numbers keep the type that was written behind them, because a number with a type is not
accepted where another type is wanted. Numbers with a fraction or an exponent are kept as they are
written; nothing here computes with them. Two numbers can be the ends of a range, either of which
may be missing. -/

namespace BiomeAtlas.Ron

/-- The types of whole numbers. -/
inductive IntType where
  | i8 | i16 | i32 | i64 | u8 | u16 | u32 | u64
  deriving DecidableEq, Repr

namespace IntType

/-- The types, in the order in which a suffix is compared with them. -/
def all : List IntType := [i8, i16, i32, i64, u8, u16, u32, u64]

/-- The suffix that names the type. -/
def name : IntType → String
  | i8 => "i8"
  | i16 => "i16"
  | i32 => "i32"
  | i64 => "i64"
  | u8 => "u8"
  | u16 => "u16"
  | u32 => "u32"
  | u64 => "u64"

/-- The number of bits. -/
def bits : IntType → Nat
  | i8 | u8 => 8
  | i16 | u16 => 16
  | i32 | u32 => 32
  | i64 | u64 => 64

/-- Whether there are negative numbers. -/
def isSigned : IntType → Bool
  | i8 | i16 | i32 | i64 => true
  | u8 | u16 | u32 | u64 => false

/-- Whether a number belongs to the type. -/
def contains (type : IntType) (n : Int) : Bool :=
  if type.isSigned then decide (-(1 <<< (type.bits - 1)) ≤ n) && decide (n < 1 <<< (type.bits - 1))
  else decide (0 ≤ n) && decide (n < 1 <<< type.bits)

end IntType

/-- Numbers. -/
inductive Number where
  /-- A whole number, with the type written behind it if there is one. -/
  | integer (value : Int) (type? : Option IntType)
  /-- A number with a fraction or an exponent, as it is written. -/
  | decimal (digits : String)
  deriving DecidableEq, Repr

/-- What a notation stands for. -/
inductive Value where
  /-- A bare word. -/
  | word (name : String)
  /-- A truth value. -/
  | bool (value : Bool)
  /-- A number. -/
  | number (value : Number)
  /-- The numbers between two ends; the last one belongs to them if the range is closed. -/
  | range (first? last? : Option Number) (closed : Bool)
  /-- A single character. -/
  | char (value : Char)
  /-- A text. -/
  | text (value : String)
  /-- A sequence of bytes. -/
  | bytes (value : List UInt8)
  /-- An optional value that is missing. -/
  | absent
  /-- An optional value that is present. -/
  | present (value : Value)
  /-- A list. -/
  | list (items : List Value)
  /-- A dictionary with values of any kind as keys. -/
  | map (entries : List (Value × Value))
  /-- A group of unnamed values. -/
  | tuple (name? : Option String) (items : List Value)
  /-- A group of named values. -/
  | record (name? : Option String) (fields : List (String × Value))
  deriving Repr, Inhabited

/-- Settings of the notation itself, which a document may begin with. -/
structure Extensions where
  /-- Records have to carry their names. -/
  explicitNames : Bool := false
  /-- Optional values may be written without marking that they are present. -/
  implicitSome : Bool := false
  /-- The members of a tuple or a record that is marked as present may stand in the parentheses of
  the mark, without parentheses of their own. -/
  bareMembers : Bool := false
  deriving DecidableEq, Repr

/-- A value together with the settings it was written under. -/
structure Document where
  /-- The settings in force. -/
  extensions : Extensions := {}
  /-- The value. -/
  value : Value

end BiomeAtlas.Ron
