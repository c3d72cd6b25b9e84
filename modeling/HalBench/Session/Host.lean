import HalBench.Catalog
import HalBench.Driver.Launch
import HalBench.Session.Response
/-!
# What a session needs from its host

Launching drivers and letting them go, listing directories, running shell commands and telling
the time are the host's; a session works with whatever they answer.
-/

namespace HalBench.Session

/-- The host of sessions with drivers of a type, in a world. -/
class Host (δ : Type) (ω : outParam Type) where
  launch : Driver.LaunchOrder → ω → Except Driver.LaunchFailure δ × ω
  release : δ → ω → ω
  listing : Files.Path → ω → Except SystemFault Listing
  shell : List String → ω → CommandOutput × ω
  clock : ω → Nat × ω
  processId : ω → UInt32
  hostName : ω → String

end HalBench.Session
