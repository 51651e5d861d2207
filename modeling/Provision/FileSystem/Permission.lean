namespace Provision.Permission

def allBits : Nat := 0o777

/-- The bits of those whom a letter stands for: the owner, the group, the others or all of them. -/
def owners? : Char → Option Nat
  | 'u' => some 0o700
  | 'g' => some 0o070
  | 'o' => some 0o007
  | 'a' => some allBits
  | _ => none

/-- The bits that a letter grants to all; some depend on what is granted already. -/
def granted? (bits : Nat) : Char → Option Nat
  | 'r' => some 0o444
  | 'w' => some 0o222
  | 'x' => some 0o111
  | 'X' => some (if bits &&& 0o111 = 0 then 0 else 0o111)
  | 's' | 't' => some 0
  | 'u' => some (bits / 64 % 8 * 0o111)
  | 'g' => some (bits / 8 % 8 * 0o111)
  | 'o' => some (bits % 8 * 0o111)
  | _ => none

def apply (bits owners : Nat) (sign : Char) (granted : Nat) : Nat :=
  let meant := granted &&& owners
  match sign with
  | '+' => bits ||| meant
  | '-' => bits &&& (allBits ^^^ meant)
  | _ => (bits &&& (allBits ^^^ owners)) ||| meant

def actions? (owners : Nat) : (fuel : Nat) → List Char → Nat → Option Nat
  | 0, _, _ => none
  | fuel + 1, cs, bits =>
    match cs with
    | [] => some bits
    | sign :: rest =>
      if sign ≠ '+' && sign ≠ '-' && sign ≠ '=' then none
      else
        let letters := rest.takeWhile (fun c => (granted? bits c).isSome)
        let granted := letters.foldl (fun n c => n ||| (granted? bits c).getD 0) 0
        actions? owners fuel (rest.drop letters.length) (apply bits owners sign granted)

/-- Makes a change that is written in letters; where no one is named, bits of the mask stay. -/
def clause? (mask : Nat) (cs : List Char) (bits : Nat) : Option Nat :=
  let named := cs.takeWhile (fun c => (owners? c).isSome)
  let owners := if named.isEmpty then allBits ^^^ (mask &&& allBits)
    else named.foldl (fun n c => n ||| (owners? c).getD 0) 0
  let actions := cs.drop named.length
  if actions.isEmpty then none else actions? owners (actions.length + 1) actions bits

def octal? (text : String) : Option Nat :=
  let cs := text.toList
  if cs.isEmpty || !cs.all (fun c => '0' ≤ c && c ≤ '7') then none
  else
    let n := cs.foldl (fun n c => 8 * n + (c.toNat - 48)) 0
    if n ≤ 0o7777 then some n else none

def clauses? (mask : Nat) (clauses : List String) (bits : Nat) : Option Nat :=
  clauses.foldlM (fun bits c => clause? mask c.toList bits) bits

/-- The permissions that a text asks for, of a file that has some already: nine bits, written as
octal digits, or as letters for whom the change is meant and what is given or taken. -/
def change? (mask : Nat) (text : String) (bits : Nat) : Option Nat :=
  match octal? text with
  | some n => some (n % 512)
  | none => clauses? mask (text.splitOn ",") bits

end Provision.Permission
