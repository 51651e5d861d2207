import Provision.Text.Composition
import Provision.Text.Direction
import Provision.Text.Extender
import Provision.Text.Folding
import Provision.Text.Unseen
import Provision.Url.Punycode

namespace Provision.Url

def isForbidden (c : Char) : Bool :=
  c.toNat ≤ 0x20 || c.toNat = 0x7f || "%#/:<>?@[\\]^|".toList.contains c

def normal (cs : List Char) : List Char := Text.composed (cs.flatMap Text.fold)

def disguise : List Char := ['x', 'n', '-', '-']

/-- Signs that hold a dot that does not part labels. -/
def hidesDot (c : Char) : Bool :=
  (0x2024 ≤ c.toNat && c.toNat ≤ 0x2026) || (0x2488 ≤ c.toNat && c.toNat ≤ 0x249b)

def isLabel (cs : List Char) : Bool :=
  cs.all (fun c => !Text.isUnseen c && !hidesDot c) && !(cs.take 1).any Text.isExtender

def plainLabel? (cs : List Char) : Option (List Char) :=
  if disguise.isPrefixOf cs then
    (Punycode.decode? (cs.drop disguise.length)).filter (fun label =>
      isLabel label && label.any (!Punycode.isBasic ·) && normal label = label)
  else if cs.all Punycode.isBasic || isLabel cs then some cs
  else none

def asciiLabel (cs : List Char) : List Char :=
  if cs.all Punycode.isBasic then cs else disguise ++ Punycode.encode cs

/-- The form in which hosts are looked up: what is beyond ASCII in a label is disguised, and names
that differ only in the case or the width of letters come to the same. Where a part of a name is
written leftward, every label keeps to one direction. -/
def asciiName? (text : String) : Option String := do
  let labels := ((String.ofList (normal text.toList)).splitOn ".").map String.toList
  let plain ← labels.mapM plainLabel?
  let name := String.intercalate "." (plain.map (fun l => String.ofList (asciiLabel l)))
  if name = "" || name.toList.any isForbidden then none
  else if plain.any Text.isLeftward && !plain.all Text.goesOneWay then none
  else pure name

end Provision.Url
