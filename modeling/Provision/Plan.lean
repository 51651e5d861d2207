import Provision.Work

namespace Provision

variable {σ : Type}

/-- Runs nothing. A program may be named that fails with a status all the same. -/
def Runner.plan (answer : Bool) (failing : Option (String × Int)) : Runner σ where
  run c site :=
    match failing with
    | some (program, status) =>
      if program = c.program then
        ((.error (.ofFault (.childFailed program status)), {}), site)
      else ((.ok (), {}), site)
    | none => ((.ok (), {}), site)
  probe _ site := (answer, site)

end Provision
