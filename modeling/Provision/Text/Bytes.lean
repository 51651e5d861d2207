namespace Provision.Text

structure Unfinished where
  value : Nat
  missing : Nat
  low : Nat := 0x80
  high : Nat := 0xbf

def replacement : Char := '\ufffd'

/-- What a byte starts where no character is unfinished: a whole character, or part of one. -/
def startWith (b : Nat) : Char ⊕ Unfinished :=
  if b < 0x80 then .inl (Char.ofNat b)
  else if 0xc2 ≤ b && b ≤ 0xdf then .inr ⟨b - 0xc0, 1, 0x80, 0xbf⟩
  else if b = 0xe0 then .inr ⟨0, 2, 0xa0, 0xbf⟩
  else if b = 0xed then .inr ⟨0xd, 2, 0x80, 0x9f⟩
  else if 0xe1 ≤ b && b ≤ 0xef then .inr ⟨b - 0xe0, 2, 0x80, 0xbf⟩
  else if b = 0xf0 then .inr ⟨0, 3, 0x90, 0xbf⟩
  else if b = 0xf4 then .inr ⟨4, 3, 0x80, 0x8f⟩
  else if 0xf1 ≤ b && b ≤ 0xf3 then .inr ⟨b - 0xf0, 3, 0x80, 0xbf⟩
  else .inl replacement

def decode : Option Unfinished → List UInt8 → List Char
  | none, [] => []
  | some _, [] => [replacement]
  | open?, b :: rest =>
    let n := b.toNat
    let fresh : List Char := match startWith n with
      | .inl c => c :: decode none rest
      | .inr u => decode (some u) rest
    match open? with
    | none => fresh
    | some u =>
      if u.low ≤ n && n ≤ u.high then
        let value := u.value * 64 + (n - 0x80)
        if u.missing ≤ 1 then Char.ofNat value :: decode none rest
        else decode (some ⟨value, u.missing - 1, 0x80, 0xbf⟩) rest
      else replacement :: fresh

/-- Where bytes are no text, a replacement character stands for each longest run that could have
started a character. -/
def ofBytes (b : ByteArray) : String :=
  match String.fromUTF8? b with
  | some s => s
  | none => String.ofList (decode none b.toList)

end Provision.Text
