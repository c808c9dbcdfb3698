import BiomeAtlas.Log.Filter

/-! # Records of the log

A record is one line: an object with the level, the fields and the target. Texts stand in quotes, in
which quotes, backslashes and control characters are escaped; so a record never spreads over
lines. -/

namespace BiomeAtlas

namespace Log

/-- The escape of a character in a record. -/
def escaped (c : Char) : List Char :=
  match c with
  | '"' => ['\\', '"']
  | '\\' => ['\\', '\\']
  | '\n' => ['\\', 'n']
  | '\r' => ['\\', 'r']
  | '\t' => ['\\', 't']
  | c =>
    if c.toNat < 32 then
      ['\\', 'u', '0', '0', Nat.digitChar (c.toNat / 16), Nat.digitChar (c.toNat % 16)]
    else [c]

/-- A text in quotes. -/
def quote (text : String) : String :=
  String.ofList ('"' :: (text.toList.flatMap escaped ++ ['"']))

/-- The record of an error. -/
def errorRecord (message : String) : String :=
  String.join ["\x7b\"level\":\"ERROR\",\"fields\":\x7b", quote messageField, ":", quote message,
    "\x7d,\"target\":", quote target, "\x7d\n"]

end Log

end BiomeAtlas
