/-!
# Numbers of drivers
-/

namespace HalBench.Driver

/-- The number under which a driver is known. -/
abbrev Id := UInt32

def Id.display (id : Id) : String := toString id.toNat

end HalBench.Driver
