import OmniLayer.Text.Hex

/-! # TOML texts

The four quoted forms of a text. Basic forms know escapes, literal forms none; the multi-line forms
drop a newline at their start, and a basic one joins lines that end in a backslash. -/

namespace OmniLayer.Toml

/-- Whether a character is a control character other than the tab. -/
def isControl (c : Char) : Bool := (c.toNat < 0x20 && c != '\t') || c.toNat = 0x7f

/-- A blank within a line. -/
def isBlank (c : Char) : Bool := c == ' ' || c == '\t'

/-- The character that hexadecimal digits number. -/
def numberedChar? (digits : List Char) : Option Char := do
  let values ← digits.mapM fun c =>
    if c.toNat < 0x80 then Hex.digitValue? (UInt8.ofNat c.toNat) else none
  let n := values.foldl (fun n d => 16 * n + d) 0
  if n < 0xd800 ∨ (0xdfff < n ∧ n < 0x110000) then some (Char.ofNat n) else none

/-- The character of an escape with one letter. -/
def escapedChar? (c : Char) : Option Char :=
  if c = 'b' then some (Char.ofNat 8)
  else if c = 't' then some '\t'
  else if c = 'n' then some '\n'
  else if c = 'f' then some (Char.ofNat 12)
  else if c = 'r' then some '\r'
  else if c = '"' then some '"'
  else if c = '\\' then some '\\'
  else none

/-- Puts a character in front of a text that was read. -/
def withChar (c : Char) (read : Option (List Char × List Char)) :
    Option (List Char × List Char) :=
  read.map fun (text, rest) => (c :: text, rest)

/-- Reads a **basic** text behind its opening quote. -/
def basic? : List Char → Option (List Char × List Char)
  | [] => none
  | '"' :: rest => some ([], rest)
  | '\\' :: 'u' :: a :: b :: c :: d :: rest => do
    withChar (← numberedChar? [a, b, c, d]) (basic? rest)
  | '\\' :: 'U' :: a :: b :: c :: d :: e :: f :: g :: h :: rest => do
    withChar (← numberedChar? [a, b, c, d, e, f, g, h]) (basic? rest)
  | '\\' :: c :: rest => do withChar (← escapedChar? c) (basic? rest)
  | c :: rest => if c = '\\' ∨ isControl c then none else withChar c (basic? rest)

/-- Reads a **literal** text behind its opening quote. -/
def literal? : List Char → Option (List Char × List Char)
  | [] => none
  | '\'' :: rest => some ([], rest)
  | c :: rest => if isControl c then none else withChar c (literal? rest)

/-- Whether a line ends here, blanks aside. -/
def atLineEnd (cs : List Char) : Bool :=
  match cs.dropWhile isBlank with
  | '\n' :: _ => true
  | '\r' :: '\n' :: _ => true
  | _ => false

/-- Reads a **multi-line basic** text. While `joining`, blanks and newlines are dropped. Up to two
quotes may stand before the closing three. -/
def multilineBasic? : (joining : Bool) → List Char → Option (List Char × List Char)
  | _, [] => none
  | _, '"' :: '"' :: '"' :: '"' :: '"' :: rest => some (['"', '"'], rest)
  | _, '"' :: '"' :: '"' :: '"' :: rest => some (['"'], rest)
  | _, '"' :: '"' :: '"' :: rest => some ([], rest)
  | _, '\\' :: 'u' :: a :: b :: c :: d :: rest => do
    withChar (← numberedChar? [a, b, c, d]) (multilineBasic? false rest)
  | _, '\\' :: 'U' :: a :: b :: c :: d :: e :: f :: g :: h :: rest => do
    withChar (← numberedChar? [a, b, c, d, e, f, g, h]) (multilineBasic? false rest)
  | _, '\\' :: c :: rest =>
    if atLineEnd (c :: rest) then multilineBasic? true rest
    else do withChar (← escapedChar? c) (multilineBasic? false rest)
  | joining, '\r' :: '\n' :: rest =>
    if joining then multilineBasic? true rest
    else withChar '\n' (multilineBasic? false rest)
  | joining, c :: rest =>
    if joining ∧ (isBlank c ∨ c = '\n') then multilineBasic? true rest
    else if c = '\n' then withChar c (multilineBasic? false rest)
    else if c = '\\' ∨ isControl c then none
    else withChar c (multilineBasic? false rest)

/-- Reads a **multi-line literal** text. Up to two quotes may stand before the closing three. -/
def multilineLiteral? : List Char → Option (List Char × List Char)
  | [] => none
  | '\'' :: '\'' :: '\'' :: '\'' :: '\'' :: rest => some (['\'', '\''], rest)
  | '\'' :: '\'' :: '\'' :: '\'' :: rest => some (['\''], rest)
  | '\'' :: '\'' :: '\'' :: rest => some ([], rest)
  | '\r' :: '\n' :: rest => withChar '\n' (multilineLiteral? rest)
  | c :: rest =>
    if isControl c ∧ c ≠ '\n' then none else withChar c (multilineLiteral? rest)

/-- Drops a newline at the start of a multi-line text. -/
def dropNewline : List Char → List Char
  | '\n' :: rest => rest
  | '\r' :: '\n' :: rest => rest
  | cs => cs

/-- Reads a **quoted text** in any form. -/
def quoted? : List Char → Option (String × List Char)
  | '"' :: '"' :: '"' :: rest => finish (multilineBasic? false (dropNewline rest))
  | '\'' :: '\'' :: '\'' :: rest => finish (multilineLiteral? (dropNewline rest))
  | '"' :: rest => finish (basic? rest)
  | '\'' :: rest => finish (literal? rest)
  | _ => none
where
  finish (read : Option (List Char × List Char)) : Option (String × List Char) :=
    read.map fun (text, rest) => (String.ofList text, rest)

end OmniLayer.Toml
