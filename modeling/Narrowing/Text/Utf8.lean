import Narrowing.Text.Quoted

/-!
# Bytes as a text

Files hold bytes, and a text is read from them as UTF-8: a first byte tells how many
bytes follow it, and in which range the one behind it lies. Bytes that spell no
character are reported with the place where they start.

## Main definitions

* `encode` — the bytes that spell a text
* `decode` — the text that bytes spell
* `Opening` — a character of which the first bytes are read
* `DecodeFault` — why bytes spell no text
-/

namespace Narrowing.Text

/-- The bytes that spell a text. -/
def encode (s : List Char) : List UInt8 := s.flatMap String.utf8EncodeChar

/-- What is wrong with bytes. -/
inductive DecodeFault.Cause where
  /-- No character starts with the byte. -/
  | start
  /-- A byte that follows does not belong to the character. -/
  | continuation
  | endOfData
deriving DecidableEq, Repr, Inhabited

/-- The wording of what is wrong. -/
def DecodeFault.Cause.text : DecodeFault.Cause → String
  | start => "invalid start byte"
  | continuation => "invalid continuation byte"
  | endOfData => "unexpected end of data"

/-- Bytes that spell no character: what is wrong, the first of them, and the positions of the
first and the last one. -/
structure DecodeFault where
  cause : DecodeFault.Cause
  byte : Nat
  first : Nat
  last : Nat
deriving DecidableEq, Repr, Inhabited

/-- The wording of a fault. -/
def DecodeFault.message (f : DecodeFault) : String :=
  let digits := String.ofList (hexDigits 2 f.byte)
  let part :=
    if f.first = f.last then s!"byte 0x{digits} in position {f.first}"
    else s!"bytes in position {f.first}-{f.last}"
  "'utf-8' codec can't decode " ++ part ++ s!": {f.cause.text}"

/-- A character of which the first bytes are read: the bits known so far, how many bytes are to
follow, and the range of the next one. -/
structure Opening where
  code : Nat
  missing : Nat
  low : Nat := 0x80
  high : Nat := 0xBF
deriving DecidableEq, Repr, Inhabited

/-- The character that a first byte opens, if it does; bytes below `0x80` are characters
themselves. Longer spellings of a character and code points that are none are ruled out by the
range of the second byte. -/
def opening? (byte : Nat) : Option Opening :=
  if byte < 0xC2 then none
  else if byte < 0xE0 then some { code := byte - 0xC0, missing := 1 }
  else if byte = 0xE0 then some { code := 0, missing := 2, low := 0xA0 }
  else if byte = 0xED then some { code := 0xD, missing := 2, high := 0x9F }
  else if byte < 0xF0 then some { code := byte - 0xE0, missing := 2 }
  else if byte = 0xF0 then some { code := 0, missing := 3, low := 0x90 }
  else if byte < 0xF4 then some { code := byte - 0xF0, missing := 3 }
  else if byte = 0xF4 then some { code := 4, missing := 3, high := 0x8F }
  else none

/-- The text of bytes that start at a position. An open character comes with its first byte and
the position of that. -/
def decodeFrom (position : Nat) (pending : Option (Opening × Nat × Nat)) :
    List UInt8 → Except DecodeFault (List Char)
  | [] =>
    match pending with
    | none => .ok []
    | some (_, byte, first) => .error ⟨.endOfData, byte, first, position - 1⟩
  | b :: rest =>
    let b := b.toNat
    match pending with
    | none =>
      if b < 0x80 then (decodeFrom (position + 1) none rest).map (Char.ofNat b :: ·)
      else
        match opening? b with
        | none => .error ⟨.start, b, position, position⟩
        | some opening => decodeFrom (position + 1) (some (opening, b, position)) rest
    | some (opening, byte, first) =>
      if opening.low ≤ b ∧ b ≤ opening.high then
        let code := opening.code * 0x40 + (b - 0x80)
        if opening.missing ≤ 1 then
          (decodeFrom (position + 1) none rest).map (Char.ofNat code :: ·)
        else
          decodeFrom (position + 1)
            (some ({ code, missing := opening.missing - 1 }, byte, first)) rest
      else .error ⟨.continuation, byte, first, position - 1⟩

/-- The text that bytes spell. -/
def decode (bytes : List UInt8) : Except DecodeFault (List Char) := decodeFrom 0 none bytes

end Narrowing.Text
