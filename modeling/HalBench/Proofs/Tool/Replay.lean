import HalBench.Proofs.Number.Decimal
import HalBench.Proofs.Session.Launches
import HalBench.Proofs.Tool.Launching
import HalBench.Proofs.Trace.Cleaning
import HalBench.Proofs.Trace.Groups
import HalBench.Proofs.Trace.Payloads

/-! A replay launches the drivers that it asks for. The names of the interfaces of a trace are
parsed into the keys of the drivers, and the key that a call asks for is made from its record. The
two are the same where the name is cut at the places at which it was joined. -/

namespace HalBench.Trace

open Service

variable {δ ω : Type} [Driver.Model δ ω] {instances : Index String} {ending : Option Error}
  {pair place : Nat} {groups : List (Record × Record)} {report : ReplaySummary} {key : Key}

/-- A record whose interface has a name that is parsed: there are a package and an interface, and
the package has no at sign. -/
def Record.WellNamed (r : Record) : Prop :=
  r.package ≠ "" ∧ '@' ∉ r.package.toList ∧ r.interface ≠ ""

theorem Record.WellNamed.parsed {r : Record} (h : r.WellNamed) (instanceName : String) :
    Key.ofQualified? r.qualifiedName instanceName =
      some ⟨r.package, r.versionText, r.interface, instanceName⟩ := by
  have someVersion : r.versionText ≠ "" := by
    simp [Record.versionText, Trace.versionText, Decimal.oneDecimal_ne_nil]
  have noColon : ':' ∉ r.versionText.toList := by
    simp [Record.versionText, Trace.versionText, Decimal.colon_not_mem_oneDecimal]
  rw [Key.ofQualified?, Record.qualifiedName,
    parseQualified?_qualifiedName h.1 h.2.1 someVersion noColon h.2.2]
  rfl

end HalBench.Trace

namespace HalBench.Tool

open Driver Service Trace

variable {δ ω : Type} [Model δ ω] [Session.Host δ ω]

end HalBench.Tool
