/-! # Text as UTF-8 bytes -/
namespace Footprint

abbrev Bytes := List UInt8

namespace Text

def bytes (s : String) : Bytes := s.toUTF8.data.toList

def ofBytes? (bs : Bytes) : Option String := String.fromUTF8? ⟨bs.toArray⟩

theorem ofBytes?_bytes (s : String) : ofBytes? (bytes s) = some s := by
  simp [ofBytes?, bytes, String.fromUTF8?, String.toUTF8, s.isValidUTF8, String.fromUTF8]

def isTail (b : UInt8) : Bool := 0x80 ≤ b && b ≤ 0xBF

/-- The bytes of the character in front, if it is well formed. -/
def charLength? : Bytes → Option Nat
  | [] => none
  | a :: r =>
    if a ≤ 0x7F then some 1
    else match r with
      | [] => none
      | b :: r =>
        if 0xC2 ≤ a && a ≤ 0xDF then if isTail b then some 2 else none
        else match r with
          | [] => none
          | c :: r =>
            if a = 0xE0 && 0xA0 ≤ b && b ≤ 0xBF || a = 0xED && 0x80 ≤ b && b ≤ 0x9F
                || (0xE1 ≤ a && a ≤ 0xEC || a = 0xEE || a = 0xEF) && isTail b then
              if isTail c then some 3 else none
            else match r with
              | [] => none
              | d :: _ =>
                if a = 0xF0 && 0x90 ≤ b && b ≤ 0xBF || a = 0xF4 && 0x80 ≤ b && b ≤ 0x8F
                    || 0xF1 ≤ a && a ≤ 0xF3 && isTail b then
                  if isTail c && isTail d then some 4 else none
                else none

/-- How many bytes, at most `fuel`, are well-formed characters before the first fault. -/
def validUpTo : Nat → Bytes → Nat
  | 0, _ => 0
  | fuel + 1, bs => match charLength? bs with
    | some n => n + validUpTo fuel (bs.drop n)
    | none => 0

/-- How many bytes are well-formed characters before the first fault. -/
def validLength (bs : Bytes) : Nat := validUpTo bs.length bs

end Text
end Footprint
