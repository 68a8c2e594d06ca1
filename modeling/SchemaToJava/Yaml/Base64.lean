/-!
Bytes written in base 64. Characters outside the alphabet are passed over.
-/

namespace SchemaToJava.Yaml.Base64

def digit? (c : Char) : Option Nat :=
  if 'A' ≤ c && c ≤ 'Z' then some (c.toNat - 65)
  else if 'a' ≤ c && c ≤ 'z' then some (c.toNat - 71)
  else if c.isDigit then some (c.toNat + 4)
  else if c = '+' then some 62
  else if c = '/' then some 63
  else none

/-- Reads digits in groups of four. `held` are the digits of the group so far, `pads` the padding
marks met in it; a group that is padded to its full size ends the text. -/
def groups (held : List Nat) (pads : Nat) : List Char → Option (List UInt8)
  | [] => if held.isEmpty then some [] else none
  | c :: rest =>
    if c = '=' then
      if 2 ≤ held.length && 4 ≤ held.length + pads + 1 then some (tail held)
      else groups held (if 2 ≤ held.length then pads + 1 else pads) rest
    else
      match digit? c, held with
      | none, _ => groups held pads rest
      | some d, [x, y, z] => (groups [] 0 rest).map (bytes [x, y, z, d] ++ ·)
      | some d, _ => groups (held ++ [d]) 0 rest
where
  bytes (ds : List Nat) : List UInt8 :=
    let n := ds.foldl (fun n d => n * 64 + d) 0
    [UInt8.ofNat (n / 65536), UInt8.ofNat (n / 256 % 256), UInt8.ofNat (n % 256)]
  tail (ds : List Nat) : List UInt8 :=
    (bytes (ds ++ List.replicate (4 - ds.length) 0)).take (ds.length - 1)

def decode? (cs : List Char) : Option (List UInt8) :=
  if cs.all (·.toNat < 0x80) then groups [] 0 cs else none

example : decode? ['Y', 'W', 'I', '='] = some [0x61, 0x62] := by decide

end SchemaToJava.Yaml.Base64
