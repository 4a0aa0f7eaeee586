/-
Module: RuntimeConsole.Text.Utf8
Purpose: The UTF-8 encoding: writing, strict reading, and reading that puts a
  replacement character in the place of what is malformed.
Main exports:
  encodeChar, encode, decode?, decodeLossy
-/

namespace RuntimeConsole.Text

/-- The bytes of one character. -/
def encodeChar (c : Char) : List UInt8 :=
  let n := c.toNat
  if n < 0x80 then [UInt8.ofNat n]
  else if n < 0x800 then [UInt8.ofNat (0xC0 + n / 0x40), UInt8.ofNat (0x80 + n % 0x40)]
  else if n < 0x10000 then
    [UInt8.ofNat (0xE0 + n / 0x1000), UInt8.ofNat (0x80 + n / 0x40 % 0x40),
      UInt8.ofNat (0x80 + n % 0x40)]
  else
    [UInt8.ofNat (0xF0 + n / 0x40000), UInt8.ofNat (0x80 + n / 0x1000 % 0x40),
      UInt8.ofNat (0x80 + n / 0x40 % 0x40), UInt8.ofNat (0x80 + n % 0x40)]

/-- The bytes of a text. -/
def encode (text : List Char) : List UInt8 :=
  text.flatMap encodeChar

/-- What stands for malformed bytes. -/
def replacementChar : Char := Char.ofNat 0xFFFD

/-- What a byte that begins a character announces: the bits it contributes, the
number of bytes to follow, and the range of the first of them.  The range keeps
out overlong forms, surrogates and code points beyond the last. -/
structure Lead where
  bits : Nat
  following : Nat
  low : Nat
  high : Nat
deriving Repr, DecidableEq

/-- What a byte announces as the first of a character. -/
def lead? (byte : UInt8) : Option Lead :=
  let n := byte.toNat
  if n < 0x80 then some ⟨n, 0, 0x80, 0xBF⟩
  else if n < 0xC2 then none
  else if n < 0xE0 then some ⟨n - 0xC0, 1, 0x80, 0xBF⟩
  else if n == 0xE0 then some ⟨0, 2, 0xA0, 0xBF⟩
  else if n == 0xED then some ⟨0xD, 2, 0x80, 0x9F⟩
  else if n < 0xF0 then some ⟨n - 0xE0, 2, 0x80, 0xBF⟩
  else if n == 0xF0 then some ⟨0, 3, 0x90, 0xBF⟩
  else if n < 0xF4 then some ⟨n - 0xF0, 3, 0x80, 0xBF⟩
  else if n == 0xF4 then some ⟨4, 3, 0x80, 0x8F⟩
  else none

/-- Reads the bytes that follow the first of a character.  The result is the
character, if the bytes are well formed, and the number of bytes that belong to
it or to its well-formed beginning. -/
def follow (bits : Nat) (low high : Nat) : (following used : Nat) → List UInt8 →
    Option Char × Nat
  | 0, used, _ => (some (Char.ofNat bits), used)
  | _ + 1, used, [] => (none, used)
  | following + 1, used, byte :: rest =>
      if low ≤ byte.toNat ∧ byte.toNat ≤ high then
        follow (bits * 0x40 + byte.toNat % 0x40) 0x80 0xBF following (used + 1) rest
      else (none, used)

/-- The characters of the bytes, malformed stretches as none.  A stretch is the
longest beginning of a well-formed character, or a single byte.  `skip` counts
the bytes that belong to the character read last. -/
def scan : (skip : Nat) → List UInt8 → List (Option Char)
  | _, [] => []
  | skip + 1, _ :: rest => scan skip rest
  | 0, byte :: rest =>
      match lead? byte with
      | none => none :: scan 0 rest
      | some lead =>
          let (char, used) := follow lead.bits lead.low lead.high lead.following 0 rest
          char :: scan used rest

/-- The text the bytes encode, if they are well formed throughout. -/
def decode? (bytes : List UInt8) : Option (List Char) :=
  (scan 0 bytes).mapM id

/-- The text the bytes encode, with a replacement character for every malformed
stretch. -/
def decodeLossy (bytes : List UInt8) : List Char :=
  (scan 0 bytes).map fun char => char.getD replacementChar

end RuntimeConsole.Text
