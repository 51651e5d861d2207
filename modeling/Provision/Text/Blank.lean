namespace Provision.Text

def isBlank (c : Char) : Bool :=
  let n := c.toNat
  (9 ≤ n && n ≤ 13) || n = 0x20 || n = 0x85 || n = 0xa0 || n = 0x1680 ||
    (0x2000 ≤ n && n ≤ 0x200a) || n = 0x2028 || n = 0x2029 || n = 0x202f || n = 0x205f || n = 0x3000

def trim (s : String) : String :=
  String.ofList (((s.toList.dropWhile isBlank).reverse.dropWhile isBlank).reverse)

def wordStep (c : Char) : List (List Char) → List (List Char)
  | words =>
    if isBlank c then [] :: words
    else match words with
      | [] => [[c]]
      | w :: ws => (c :: w) :: ws

def words (s : String) : List String :=
  ((s.toList.foldr wordStep []).filter (· ≠ [])).map String.ofList

/-- An ASCII capital becomes small; no other character changes. -/
def lower (c : Char) : Char := if 'A' ≤ c && c ≤ 'Z' then Char.ofNat (c.toNat + 32) else c

def equalIgnoringCase (s t : String) : Bool := s.toList.map lower = t.toList.map lower

end Provision.Text
