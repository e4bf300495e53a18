import Rumor.Json.Token
import Rumor.Text.Utf8

namespace Rumor.Json.Quoted

open Token (quote backslash)

def escapeByte (b : UInt8) : Bytes :=
  if b = quote ∨ b = backslash then [backslash, b]
  else if 0x20 ≤ b then [b]
  else if b = 0x08 then [backslash, 0x62]
  else if b = 0x09 then [backslash, 0x74]
  else if b = 0x0A then [backslash, 0x6E]
  else if b = 0x0C then [backslash, 0x66]
  else if b = 0x0D then [backslash, 0x72]
  else [backslash, 0x75, 0x30, 0x30] ++ (Hex.byte b).map (fun c => c.val.toUInt8)

-- A string between its quotes, as it is written.
def encode (text : String) : Bytes :=
  quote :: (Utf8.encode text).flatMap escapeByte ++ [quote]

def codeUnit? (a b c d : UInt8) : Option Nat := do
  let a ← Hex.digit? a
  let b ← Hex.digit? b
  let c ← Hex.digit? c
  let d ← Hex.digit? d
  return 4096 * a + 256 * b + 16 * c + d

def unescapeByte? (b : UInt8) : Option UInt8 :=
  if b = quote ∨ b = backslash ∨ b = 0x2F then some b
  else if b = 0x62 then some 0x08
  else if b = 0x66 then some 0x0C
  else if b = 0x6E then some 0x0A
  else if b = 0x72 then some 0x0D
  else if b = 0x74 then some 0x09
  else none

-- The bytes that escapes stand for; `read` holds those found, newest first. A
-- code in the surrogate range counts only as a leading one right before a
-- trailing one.
def unescape (read : Bytes) : Bytes → Option Bytes
  | [] => some read.reverse
  | [b] => if b = backslash then none else some (b :: read).reverse
  | b :: c :: rest =>
      if b ≠ backslash then unescape (b :: read) (c :: rest)
      else if c ≠ 0x75 then
        match unescapeByte? c with
        | some e => unescape (e :: read) rest
        | none => none
      else
        match rest with
        | h :: i :: j :: k :: rest =>
            match codeUnit? h i j k with
            | none => none
            | some n =>
                if n < 0xD800 ∨ 0xE000 ≤ n then
                  unescape ((Utf8.encodeChar (Char.ofNat n)).reverse ++ read) rest
                else if 0xDC00 ≤ n then none
                else
                  match rest with
                  | 0x5C :: 0x75 :: h :: i :: j :: k :: rest =>
                      match codeUnit? h i j k with
                      | none => none
                      | some t =>
                          if 0xDC00 ≤ t ∧ t < 0xE000 then
                            let c := Char.ofNat (0x10000 + 0x400 * (n - 0xD800) + (t - 0xDC00))
                            unescape ((Utf8.encodeChar c).reverse ++ read) rest
                          else none
                  | _ => none
        | _ => none

-- The text of a string token.
def decode (raw : Bytes) : Option String :=
  match unescape [] raw with
  | none => none
  | some bytes => (Utf8.decode bytes).toOption

end Rumor.Json.Quoted
