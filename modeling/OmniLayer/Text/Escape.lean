import OmniLayer.Text.Utf8

/-! # Escaped text

Characters and texts between quotes, as error messages show them. The quote that encloses them, the
backslash and the common control characters have escapes of their own; any other character without a
visible form is written by its number. -/

namespace OmniLayer.Escape

/-- The hexadecimal digits of a number, without leading zeros. -/
def hexDigits (n : Nat) : List Char := Nat.toDigits 16 n

/-- Ranges of characters **without a visible form** of their own: controls, marks that join the
character before them, signs of direction and layout, and private characters. -/
def invisibleRanges : List (Nat × Nat) :=
  [(0x00, 0x1f), (0x7f, 0x9f), (0xad, 0xad), (0x300, 0x36f), (0x378, 0x379), (0x483, 0x489),
   (0x591, 0x5bd), (0x600, 0x605), (0x610, 0x61a), (0x61c, 0x61c), (0x64b, 0x65f), (0x6dd, 0x6dd),
   (0x70f, 0x70f), (0x93c, 0x93c), (0x941, 0x948), (0x94d, 0x94d), (0xe31, 0xe31),
   (0xe34, 0xe3a), (0xe47, 0xe4e), (0x180b, 0x180f), (0x1ab0, 0x1ace), (0x1dc0, 0x1dff),
   (0x200b, 0x200f), (0x202a, 0x202e), (0x2060, 0x206f), (0x20d0, 0x20f0), (0x302a, 0x302f),
   (0xe000, 0xf8ff), (0xfdd0, 0xfdef), (0xfe00, 0xfe0f), (0xfe20, 0xfe2f), (0xfeff, 0xfeff),
   (0xff9e, 0xff9f), (0xfff0, 0xfffb), (0xfffe, 0xffff), (0xe0000, 0x10ffff)]

/-- Whether a character has no visible form: it is a blank other than the space, or in a range. -/
def isInvisible (c : Char) : Bool :=
  (Text.isBlank c && c != ' ') ||
    invisibleRanges.any fun range => range.1 ≤ c.toNat && c.toNat ≤ range.2

/-- The form of a **character** between quotes. -/
def char (quote c : Char) : List Char :=
  if c = quote ∨ c = '\\' then ['\\', c]
  else if c = '\n' then ['\\', 'n']
  else if c = '\r' then ['\\', 'r']
  else if c = '\t' then ['\\', 't']
  else if c.toNat = 0 then ['\\', '0']
  else if isInvisible c then '\\' :: 'u' :: '\x7b' :: hexDigits c.toNat ++ ['\x7d']
  else [c]

/-- A **text between quotes**. -/
def quoted (quote : Char) (text : String) : String :=
  String.ofList (quote :: text.toList.flatMap (char quote) ++ [quote])

end OmniLayer.Escape
