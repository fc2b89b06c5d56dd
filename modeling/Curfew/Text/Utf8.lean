/-!
UTF-8: characters as bytes and back.

Reading is strict: a byte sequence that is cut short, longer than needed, or stands for no character
is refused, and so is the whole text that holds it.
-/

namespace Curfew.Text.Utf8

/-- The bytes of one character. -/
def encodeChar (c : Char) : List UInt8 :=
  let n := c.toNat
  if n < 0x80 then [UInt8.ofNat n]
  else if n < 0x800 then [UInt8.ofNat (0xc0 + n / 0x40), UInt8.ofNat (0x80 + n % 0x40)]
  else if n < 0x10000 then
    [UInt8.ofNat (0xe0 + n / 0x1000), UInt8.ofNat (0x80 + n / 0x40 % 0x40),
     UInt8.ofNat (0x80 + n % 0x40)]
  else
    [UInt8.ofNat (0xf0 + n / 0x40000), UInt8.ofNat (0x80 + n / 0x1000 % 0x40),
     UInt8.ofNat (0x80 + n / 0x40 % 0x40), UInt8.ofNat (0x80 + n % 0x40)]

def encode (cs : List Char) : List UInt8 := cs.flatMap encodeChar

/-- The six bits of a byte that continues a character. -/
def continuation? (b : UInt8) : Option Nat :=
  if 0x80 ≤ b.toNat && b.toNat < 0xc0 then some (b.toNat - 0x80) else none

/-- The character of a code point, if it has one and needs at least as many bytes as were used. -/
def character? (least n : Nat) : Option Char :=
  if least ≤ n && Nat.isValidChar n then some (Char.ofNat n) else none

/-- The characters that the bytes stand for. -/
def decode : List UInt8 → Option (List Char)
  | [] => some []
  | a :: rest =>
    if a.toNat < 0x80 then (decode rest).map (Char.ofNat a.toNat :: ·)
    else if 0xc0 ≤ a.toNat && a.toNat < 0xe0 then
      match rest with
      | b :: rest => do
        let c ← character? 0x80 ((a.toNat - 0xc0) * 0x40 + (← continuation? b))
        (decode rest).map (c :: ·)
      | _ => none
    else if 0xe0 ≤ a.toNat && a.toNat < 0xf0 then
      match rest with
      | b :: c :: rest => do
        let n := (a.toNat - 0xe0) * 0x1000 + (← continuation? b) * 0x40 + (← continuation? c)
        let c ← character? 0x800 n
        (decode rest).map (c :: ·)
      | _ => none
    else if 0xf0 ≤ a.toNat && a.toNat < 0xf8 then
      match rest with
      | b :: c :: d :: rest => do
        let n := (a.toNat - 0xf0) * 0x40000 + (← continuation? b) * 0x1000 +
          (← continuation? c) * 0x40 + (← continuation? d)
        let c ← character? 0x10000 n
        (decode rest).map (c :: ·)
      | _ => none
    else none

/-! ### Open ends -/

/-- Whether bytes are the beginning of one character that further bytes would complete. -/
def isUnfinished (bs : List UInt8) : Bool :=
  [1, 2, 3].any fun n => [0x80, 0xbf].any fun b =>
    match decode (bs ++ List.replicate n b) with
    | some [_] => true
    | _ => false

/-- The characters that bytes stand for when more may follow, which complete the last one. -/
def decodeOpen (bs : List UInt8) : Option (List Char) :=
  match decode bs with
  | some cs => some cs
  | none => [1, 2, 3].findSome? fun n =>
    let size := bs.length - n
    if isUnfinished (bs.drop size) then decode (bs.take size) else none

/-! ### Sizes -/

/-- How many bytes a text takes. -/
def size (s : String) : Nat := (encode s.toList).length

end Curfew.Text.Utf8
