/-!
UTF-8, strictly. Decoding stops at the first byte sequence that no character has, and reports where
it starts, how long it is and what is wrong with it.
-/

namespace SchemaToJava.Text.Utf8

inductive Flaw where
  | startByte
  | continuationByte
  | endOfData
  deriving DecidableEq, Repr

structure DecodeError where
  start : Nat
  bytes : List UInt8
  flaw : Flaw
  deriving DecidableEq, Repr

def Flaw.text : Flaw → String
  | .startByte => "invalid start byte"
  | .continuationByte => "invalid continuation byte"
  | .endOfData => "unexpected end of data"

private def hexByte (b : UInt8) : String :=
  let digit (n : Nat) := if n < 10 then Char.ofNat (n + 48) else Char.ofNat (n + 87)
  String.ofList [digit (b.toNat / 16), digit (b.toNat % 16)]

/-- One bad byte is shown, of several only the range of their offsets. -/
def DecodeError.message (e : DecodeError) : String :=
  match e.bytes with
  | [b] => s!"'utf-8' codec can't decode byte 0x{hexByte b} in position {e.start}: {e.flaw.text}"
  | bs =>
    let last := e.start + bs.length - 1
    s!"'utf-8' codec can't decode bytes in position {e.start}-{last}: {e.flaw.text}"

inductive Step where
  | char (c : Char) (size : Nat)
  | flaw (f : Flaw) (size : Nat)

private def isTail (b : UInt8) : Bool := 0x80 ≤ b && b ≤ 0xBF

/-- The second byte is bounded more tightly after four of the lead bytes, which rules out overlong
forms, surrogates and everything above U+10FFFF. -/
def isSecond (lead b : UInt8) : Bool :=
  if lead == 0xE0 then 0xA0 ≤ b && b ≤ 0xBF
  else if lead == 0xED then 0x80 ≤ b && b ≤ 0x9F
  else if lead == 0xF0 then 0x90 ≤ b && b ≤ 0xBF
  else if lead == 0xF4 then 0x80 ≤ b && b ≤ 0x8F
  else isTail b

private def assemble (bits : Nat) (tail : List UInt8) : Char :=
  Char.ofNat (tail.foldl (fun n b => n * 64 + (b.toNat - 0x80)) bits)

def step (lead : UInt8) (rest : List UInt8) : Step :=
  if lead < 0x80 then .char (Char.ofNat lead.toNat) 1
  else if lead < 0xC2 || 0xF4 < lead then .flaw .startByte 1
  else
    match rest with
    | [] => .flaw .endOfData 1
    | b :: more =>
      if !isSecond lead b then .flaw .continuationByte 1
      else if lead < 0xE0 then .char (assemble (lead.toNat - 0xC0) [b]) 2
      else
        match more with
        | [] => .flaw .endOfData 2
        | c :: more =>
          if !isTail c then .flaw .continuationByte 2
          else if lead < 0xF0 then .char (assemble (lead.toNat - 0xE0) [b, c]) 3
          else
            match more with
            | [] => .flaw .endOfData 3
            | d :: _ =>
              if !isTail d then .flaw .continuationByte 3
              else .char (assemble (lead.toNat - 0xF0) [b, c, d]) 4

/-- Decodes from the given offset on; the first `skip` bytes belong to a character already read. -/
def decodeFrom (offset skip : Nat) : List UInt8 → Except DecodeError (List Char)
  | [] => .ok []
  | b :: rest =>
    match skip with
    | k + 1 => decodeFrom (offset + 1) k rest
    | 0 =>
      match step b rest with
      | .flaw f size => .error ⟨offset, (b :: rest).take size, f⟩
      | .char c size => (decodeFrom (offset + 1) (size - 1) rest).map (c :: ·)

def decode (bytes : List UInt8) : Except DecodeError (List Char) := decodeFrom 0 0 bytes

def encode (s : String) : List UInt8 := s.toList.flatMap String.utf8EncodeChar

/-- Whether the bytes at the end of a chunk, in which something is wrong, wait for the next chunk:
a sequence cut short, or two of the three bytes that would encode half of a surrogate pair. -/
def awaitsMore : Flaw → List UInt8 → Bool
  | .endOfData, _ => true
  | .continuationByte, [lead, b] => lead == 0xED && isTail b
  | _, _ => false

/-- Decodes a stream that is read in chunks of at most `size` bytes, up to the first chunk in which
something is wrong. What the chunk before left over is put in front of the next chunk, and offsets
count from there. `fuel` bounds the number of chunks. -/
def decodeChunks (size : Nat) : (fuel : Nat) → (pending bytes : List UInt8) →
    List Char × Option DecodeError
  | 0, pending, _ => last pending
  | fuel + 1, pending, bytes =>
    if bytes.isEmpty then last pending
    else
      let chunk := pending ++ bytes.take size
      match decode chunk with
      | .ok cs => after cs (decodeChunks size fuel [] (bytes.drop size))
      | .error e =>
        let rest := chunk.drop e.start
        match awaitsMore e.flaw rest, decode (chunk.take e.start) with
        | true, .ok cs => after cs (decodeChunks size fuel rest (bytes.drop size))
        | _, _ => ([], some e)
where
  last (pending : List UInt8) : List Char × Option DecodeError :=
    match decode pending with
    | .ok cs => (cs, none)
    | .error e => ([], some e)
  after (cs : List Char) (more : List Char × Option DecodeError) : List Char × Option DecodeError :=
    (cs ++ more.1, more.2)

def decodeStream (size : Nat) (bytes : List UInt8) : List Char × Option DecodeError :=
  decodeChunks size (bytes.length + 1) [] bytes

@[simp] theorem encode_append (s t : String) : encode (s ++ t) = encode s ++ encode t := by
  simp [encode]

theorem encode_eq_toByteArray (s : String) : encode s = s.toByteArray.data.toList := by
  rw [← String.utf8Encode_toList]
  simp [encode, List.utf8Encode]

example : decode [0x61, 0xC3, 0xA9] = .ok ['a', 'é'] := rfl
example : decode [0x61, 0xC3] = .error ⟨1, [0xC3], .endOfData⟩ := rfl

end SchemaToJava.Text.Utf8
