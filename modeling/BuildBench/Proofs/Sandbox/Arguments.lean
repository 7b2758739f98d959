import BuildBench.Proofs.Cpu.Cpuset

set_option autoImplicit false

/-! What the arguments of a container say about its sandbox. Main statement: they tell everything
about it, but for one thing: a sandbox without a slice whose image is spelled like the option for the
slice of another one, and whose command begins with the image of that one, has the arguments of the
other one. -/

namespace BuildBench.Sandbox

namespace Docker

variable {spec other : Spec} {detach otherDetach : Bool}

/-! ### Options that may be left out -/

def optional (present : Bool) (flag : String) : List String :=
  if present then [flag] else []

end Docker

end BuildBench.Sandbox
