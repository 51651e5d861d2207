import Provision.Text.Bytes

namespace Provision.Shell.Octets

/-- The shell knows bytes and no characters, so in a script, a word or an output one character below
256 stands for each byte. -/
def ofBytes (b : ByteArray) : List Char := b.toList.map (fun b => Char.ofNat b.toNat)

def toBytes (cs : List Char) : ByteArray := ⟨(cs.map (·.toNat.toUInt8)).toArray⟩

def ofText (s : String) : String := String.ofList (ofBytes s.toUTF8)

def toText (s : String) : String := Text.ofBytes (toBytes s.toList)

end Provision.Shell.Octets
