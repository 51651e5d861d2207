namespace Provision.Text

/-- Closed ranges of the numbers of characters, ascending and apart. -/
abbrev Ranges := List (Nat × Nat)

namespace Ranges

def contains (rs : Ranges) (c : Char) : Bool := rs.any (fun r => r.1 ≤ c.toNat && c.toNat ≤ r.2)

end Ranges
end Provision.Text
