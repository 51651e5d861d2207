namespace Provision.Url

def hexDigit (n : Nat) : Char := if n < 10 then Char.ofNat (n + 48) else Char.ofNat (n + 55)

def escapeByte (b : UInt8) : List Char :=
  ['%', hexDigit (b.toNat / 16), hexDigit (b.toNat % 16)]

def escape (set : String) (cs : List Char) : List Char :=
  cs.flatMap (fun c =>
    if c.toNat < 0x20 || 0x7f ≤ c.toNat || set.toList.contains c then
      (String.singleton c).toUTF8.toList.flatMap escapeByte
    else [c])

def escaped (set : String) (cs : List Char) : String := String.ofList (escape set cs)

def hexValue? (c : Char) : Option Nat :=
  if c.isDigit then some (c.toNat - 48)
  else if 'a' ≤ c && c ≤ 'f' then some (c.toNat - 87)
  else if 'A' ≤ c && c ≤ 'F' then some (c.toNat - 55)
  else none

/-- The bytes of a text whose escapes are resolved; a percent sign that begins none stays. -/
def unescape : List Char → List UInt8
  | [] => []
  | '%' :: a :: b :: rest =>
    match hexValue? a, hexValue? b with
    | some m, some n => UInt8.ofNat (16 * m + n) :: unescape rest
    | _, _ => 0x25 :: unescape (a :: b :: rest)
  | c :: rest => (String.singleton c).toUTF8.toList ++ unescape rest

def unescaped? (cs : List Char) : Option String :=
  String.fromUTF8? (ByteArray.mk (unescape cs).toArray)

def plainSet : String := " \"<>"

end Provision.Url
