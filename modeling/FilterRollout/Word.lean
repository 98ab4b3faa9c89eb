/-! How many values fit into words of a fixed width. -/

namespace FilterRollout.Word

/-- The values of an unsigned word of 16 bits are the natural numbers below this. -/
abbrev count16 : Nat := 0x10000

/-- The values of an unsigned word of 32 bits are the natural numbers below this. -/
abbrev count32 : Nat := 0x1_0000_0000

/-- The values of an unsigned word of 64 bits are the natural numbers below this. -/
abbrev count64 : Nat := 0x1_0000_0000_0000_0000

/-- A signed word of 32 bits holds the integers from minus this to below it. -/
abbrev half32 : Nat := 0x8000_0000

/-- A signed word of 64 bits holds the integers from minus this to below it. -/
abbrev half64 : Nat := 0x8000_0000_0000_0000

end FilterRollout.Word
