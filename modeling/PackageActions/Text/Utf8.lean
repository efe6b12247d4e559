/-!
# Bytes and the texts they spell

Paths, command-line words, variables and files are bytes. `decodeUtf8?` gives the text of bytes that
are well-formed UTF-8 and nothing else; `decodeLossy` gives a readable text of any bytes, with one
replacement character for each longest start of a sequence that goes wrong.
-/

namespace PackageActions

/-- A string of bytes. -/
abbrev Bytes := List UInt8

namespace Text

/-- The text that the bytes spell, if they are well-formed UTF-8. -/
def decodeUtf8? (bytes : Bytes) : Option String :=
  String.fromUTF8? ⟨bytes.toArray⟩

/-- The bytes of a text. -/
def encodeUtf8 (text : String) : Bytes :=
  text.toUTF8.toList

/-- What stands for bytes that spell nothing. -/
def replacement : Char := '\ufffd'

/-- A byte that continues a sequence. -/
def isContinuation (b : UInt8) : Bool := 0x80 ≤ b && b ≤ 0xbf

/-- What a first byte announces: the range of the second byte and how many more follow it. -/
structure Announced where
  low : UInt8
  high : UInt8
  more : Nat

/-- Overlong forms, surrogates and code points past the last are excluded by the second byte. -/
def announced? (lead : UInt8) : Option Announced :=
  if 0xc2 ≤ lead && lead ≤ 0xdf then some ⟨0x80, 0xbf, 0⟩
  else if lead = 0xe0 then some ⟨0xa0, 0xbf, 1⟩
  else if lead = 0xed then some ⟨0x80, 0x9f, 1⟩
  else if 0xe1 ≤ lead && lead ≤ 0xef then some ⟨0x80, 0xbf, 1⟩
  else if lead = 0xf0 then some ⟨0x90, 0xbf, 2⟩
  else if 0xf1 ≤ lead && lead ≤ 0xf3 then some ⟨0x80, 0xbf, 2⟩
  else if lead = 0xf4 then some ⟨0x80, 0x8f, 2⟩
  else none

/-- The code point of a sequence: the low bits of its first byte, then six bits a byte. -/
def codePoint (lead : Nat) (tail : List UInt8) : Char :=
  Char.ofNat (tail.foldl (fun n b => n * 64 + b.toNat % 64) lead)

/-- The characters of any bytes, the ill-formed parts replaced. -/
def lossyChars : Bytes → List Char
  | [] => []
  | a :: rest =>
    if a < 0x80 then Char.ofNat a.toNat :: lossyChars rest
    else match announced? a with
      | none => replacement :: lossyChars rest
      | some form =>
        match rest with
        | [] => [replacement]
        | b :: rest₁ =>
          if b < form.low || form.high < b then replacement :: lossyChars (b :: rest₁)
          else match form.more with
            | 0 => codePoint (a.toNat % 32) [b] :: lossyChars rest₁
            | more + 1 =>
              match rest₁ with
              | [] => [replacement]
              | c :: rest₂ =>
                if !isContinuation c then replacement :: lossyChars (c :: rest₂)
                else match more with
                  | 0 => codePoint (a.toNat % 16) [b, c] :: lossyChars rest₂
                  | _ + 1 =>
                    match rest₂ with
                    | [] => [replacement]
                    | d :: rest₃ =>
                      if !isContinuation d then replacement :: lossyChars (d :: rest₃)
                      else codePoint (a.toNat % 8) [b, c, d] :: lossyChars rest₃

/-- A readable text of any bytes. -/
def decodeLossy (bytes : Bytes) : String :=
  String.ofList (lossyChars bytes)

end Text

end PackageActions
