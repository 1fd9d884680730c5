/-!
# UTF-8

* `decodeUtf8`: the characters that bytes encode; bytes that encode none are
  dropped.
-/

namespace RouteDoc.Text

/-- Whether a byte continues a sequence, and its payload. -/
def continuation? (b : UInt8) : Option Nat :=
  if 0x80 ≤ b && b < 0xC0 then some (b.toNat - 0x80) else none

/-- The character that starts a sequence of bytes, and how many bytes after the
first belong to it. -/
def decodeFirst : List UInt8 → Option (Char × Nat)
  | [] => none
  | a :: rest =>
    let lead := a.toNat
    if lead < 0x80 then some (Char.ofNat lead, 0)
    else if lead < 0xC2 then none
    else if lead < 0xE0 then
      match rest with
      | b :: _ => (continuation? b).map fun y => (Char.ofNat ((lead - 0xC0) * 0x40 + y), 1)
      | [] => none
    else if lead < 0xF0 then
      match rest with
      | b :: c :: _ => do
        let y ← continuation? b
        let z ← continuation? c
        let n := ((lead - 0xE0) * 0x40 + y) * 0x40 + z
        if 0x800 ≤ n && !(0xD800 ≤ n && n < 0xE000) then some (Char.ofNat n, 2) else none
      | _ => none
    else if lead < 0xF5 then
      match rest with
      | b :: c :: d :: _ => do
        let x ← continuation? b
        let y ← continuation? c
        let z ← continuation? d
        let n := (((lead - 0xF0) * 0x40 + x) * 0x40 + y) * 0x40 + z
        if 0x10000 ≤ n && n < 0x110000 then some (Char.ofNat n, 3) else none
      | _ => none
    else none

/-- The characters that bytes encode, after those in `acc`, the last first. The
next `skip` bytes belong to the last character. -/
def decodeFrom (acc : List Char) : Nat → List UInt8 → List Char
  | _, [] => acc.reverse
  | skip + 1, _ :: bs => decodeFrom acc skip bs
  | 0, b :: bs =>
    match decodeFirst (b :: bs) with
    | some (c, n) => decodeFrom (c :: acc) n bs
    | none => decodeFrom acc 0 bs

/-- The characters that bytes encode. -/
def decodeUtf8 (bytes : ByteArray) : List Char := decodeFrom [] 0 bytes.toList

end RouteDoc.Text
