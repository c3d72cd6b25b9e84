import HalBench.Proofs.Text.Cut
import HalBench.Service.Key

/-! A full name is parsed into the parts that it was made of exactly when they can be told apart:
none of them is empty, the package has no at sign, and no double colon begins within the version.
A name that is parsed is made of such parts, so the parts and the name determine each other. -/

namespace HalBench.Service

variable {name package version interface instanceName : String} {key : Key}

/-- Parts that can be told apart in their full name. -/
structure Separable (package version interface : String) : Prop where
  somePackage : package ≠ ""
  someVersion : version ≠ ""
  someInterface : interface ≠ ""
  noAt : '@' ∉ package.toList
  noColons : ¬ [':', ':'] <:+: version.toList
  lastOther : version.toList.getLast? ≠ some ':'

theorem toList_qualifiedName : (qualifiedName package version interface).toList =
    package.toList ++ (['@'] ++ (version.toList ++ ([':', ':'] ++ interface.toList))) := by
  simp [qualifiedName]

theorem parseQualified?_of_separable (h : Separable package version interface) :
    parseQualified? (qualifiedName package version interface) =
      some (package, version, interface) := by
  have first : Text.cut ['@'] (qualifiedName package version interface).toList =
      some (package.toList, version.toList ++ ([':', ':'] ++ interface.toList)) := by
    rw [toList_qualifiedName]
    exact Text.cut_append h.noAt
  have second : Text.cut [':', ':'] (version.toList ++ ([':', ':'] ++ interface.toList)) =
      some (version.toList, interface.toList) := Text.cut_twice_iff.mpr ⟨h.noColons, h.lastOther⟩
  have parts : ¬ (package.toList = [] ∨ version.toList = [] ∨ interface.toList = []) := by
    simp [h.somePackage, h.someVersion, h.someInterface]
  simp only [parseQualified?, first, second, Option.bind_eq_bind, Option.bind_some, if_neg parts,
    String.ofList_toList]

theorem parseQualified?_ok (h : parseQualified? name = some (package, version, interface)) :
    name = qualifiedName package version interface ∧ Separable package version interface := by
  unfold parseQualified? at h
  cases first : Text.cut ['@'] name.toList with
  | none => simp [first] at h
  | some cut =>
    obtain ⟨p, rest⟩ := cut
    cases second : Text.cut [':', ':'] rest with
    | none => simp [first, second] at h
    | some cut =>
      obtain ⟨v, i⟩ := cut
      simp only [first, second, Option.bind_eq_bind, Option.bind_some] at h
      split at h
      · cases h
      · rename_i parts
        obtain ⟨somePackage, someVersion, someInterface⟩ := by simpa only [not_or] using parts
        cases h
        obtain rfl := Text.append_of_cut second
        obtain ⟨noColons, lastOther⟩ := Text.cut_twice_iff.mp second
        constructor
        · apply String.toList_injective
          rw [toList_qualifiedName, Text.append_of_cut first]
          simp only [String.toList_ofList]
        · refine ⟨?_, ?_, ?_, ?_, ?_, ?_⟩
          · simpa using somePackage
          · simpa using someVersion
          · simpa using someInterface
          · simpa using Text.not_mem_of_cut first
          · simpa using noColons
          · simpa using lastOther

/-- A name is parsed into some parts exactly when it is made of them and they can be told apart. -/
theorem parseQualified?_eq_some_iff :
    parseQualified? name = some (package, version, interface) ↔
      name = qualifiedName package version interface ∧ Separable package version interface := by
  constructor
  · exact parseQualified?_ok
  · rintro ⟨rfl, separable⟩
    exact parseQualified?_of_separable separable

theorem parseQualified?_qualifiedName (somePackage : package ≠ "") (noAt : '@' ∉ package.toList)
    (someVersion : version ≠ "") (noColon : ':' ∉ version.toList) (someInterface : interface ≠ "") :
    parseQualified? (qualifiedName package version interface) =
      some (package, version, interface) := by
  apply parseQualified?_of_separable
  refine ⟨somePackage, someVersion, someInterface, noAt, fun colons => ?_, fun last => ?_⟩
  · exact noColon (colons.subset List.mem_cons_self)
  · exact noColon (List.mem_of_getLast? last)

theorem version_of_qualifiedName {package' version' interface' : String}
    (h : qualifiedName package version interface = qualifiedName package' version' interface')
    (packages : package = package' ∨ '@' ∉ package.toList ∧ '@' ∉ package'.toList)
    (noColon : ':' ∉ version.toList) (noColon' : ':' ∉ version'.toList) : version = version' := by
  have text := congrArg String.toList h
  rw [toList_qualifiedName, toList_qualifiedName] at text
  have rest : version.toList ++ ([':', ':'] ++ interface.toList) =
      version'.toList ++ ([':', ':'] ++ interface'.toList) := by
    rcases packages with rfl | ⟨noAt, noAt'⟩
    · exact List.append_cancel_left (List.append_cancel_left text)
    · exact (Text.append_mark_inj [] noAt noAt' text).2
  exact String.toList_injective (Text.append_mark_inj [':'] noColon noColon' rest).1

namespace Key

/-- A key is made from a name exactly when the name is its full name and its parts can be told
apart. -/
theorem ofQualified?_eq_some_iff : ofQualified? name instanceName = some key ↔
    name = key.qualifiedName ∧ instanceName = key.instanceName ∧
      Separable key.package key.version key.interface := by
  rw [ofQualified?, Option.map_eq_some_iff]
  constructor
  · rintro ⟨⟨p, v, i⟩, parsed, rfl⟩
    obtain ⟨made, separable⟩ := parseQualified?_ok parsed
    exact ⟨made, rfl, separable⟩
  · rintro ⟨rfl, rfl, separable⟩
    exact ⟨(key.package, key.version, key.interface), parseQualified?_of_separable separable, rfl⟩

theorem qualifiedName_of_ofQualified? (h : ofQualified? name instanceName = some key) :
    key.qualifiedName = name ∧ key.instanceName = instanceName ∧ key.package ≠ "" ∧
      '@' ∉ key.package.toList ∧ key.interface ≠ "" := by
  obtain ⟨made, inst, separable⟩ := ofQualified?_eq_some_iff.mp h
  exact ⟨made.symm, inst.symm, separable.somePackage, separable.noAt, separable.someInterface⟩

end Key

/-- The parts of a full name are read back from it exactly when they can be told apart, and a name
that is read is made of the parts that are read. So two names never give one key for the same
instance, and among keys whose parts can be told apart the full name tells the package, the version
and the interface. -/
theorem qualifiedName_parses :
    (∀ package version interface, parseQualified? (qualifiedName package version interface) =
        some (package, version, interface) ↔ Separable package version interface) ∧
    (∀ name package version interface,
      parseQualified? name = some (package, version, interface) →
        qualifiedName package version interface = name ∧ Separable package version interface) ∧
    (∀ instanceName name other key, Key.ofQualified? name instanceName = some key →
      Key.ofQualified? other instanceName = some key → name = other) ∧
    (∀ k l : Key, Separable k.package k.version k.interface →
      Separable l.package l.version l.interface →
        (k.qualifiedName = l.qualifiedName ↔
          k.package = l.package ∧ k.version = l.version ∧ k.interface = l.interface)) := by
  refine ⟨fun package version interface => ?_, fun name package version interface parsed => ?_,
    fun instanceName name other key parsed parsed' => ?_, fun k l separable separable' => ?_⟩
  · rw [parseQualified?_eq_some_iff]
    exact and_iff_right rfl
  · obtain ⟨made, separable⟩ := parseQualified?_ok parsed
    exact ⟨made.symm, separable⟩
  · obtain ⟨made, -⟩ := Key.ofQualified?_eq_some_iff.mp parsed
    obtain ⟨made', -⟩ := Key.ofQualified?_eq_some_iff.mp parsed'
    exact made.trans made'.symm
  · constructor
    · intro same
      have parsed := parseQualified?_of_separable separable
      have parsed' := parseQualified?_of_separable separable'
      have names : qualifiedName k.package k.version k.interface =
          qualifiedName l.package l.version l.interface := same
      rw [names, parsed'] at parsed
      simp only [Option.some.injEq, Prod.mk.injEq] at parsed
      exact ⟨parsed.1.symm, parsed.2.1.symm, parsed.2.2.symm⟩
    · rintro ⟨packages, versions, interfaces⟩
      rw [Key.qualifiedName, packages, versions, interfaces, Key.qualifiedName]

/-- Colons and at signs may stand in all parts but where a mark would begin: the interface may begin
with a colon, and a version that ends with one is not read back. -/
theorem qualifiedName_parses_colons :
    let name := "a::b@1@2:3:::I@::"
    let k : Key := ⟨"a::b", "1@2:3", ":I@::", "left"⟩
    let l : Key := { k with instanceName := "right" }
    Separable k.package k.version k.interface ∧
      parseQualified? name = some (k.package, k.version, k.interface) ∧
      qualifiedName k.package k.version k.interface = name ∧
      Key.ofQualified? name "left" = some k ∧
      (∀ other, Key.ofQualified? other "left" = some k → name = other) ∧
      k.qualifiedName = l.qualifiedName ∧
      ¬ Separable "p" "1:" "I" ∧
      parseQualified? (qualifiedName "p" "1:" "I") ≠ some ("p", "1:", "I") := by
  intro name k l
  obtain ⟨reads, made, injective, told⟩ := qualifiedName_parses
  have separable : Separable k.package k.version k.interface :=
    ⟨by decide, by decide, by decide, by decide, by decide, by decide⟩
  have ends : ¬ Separable "p" "1:" "I" := fun h => h.lastOther (by decide)
  have whole : qualifiedName k.package k.version k.interface = name := by decide +kernel
  have parsed : parseQualified? name = some (k.package, k.version, k.interface) := by
    rw [← whole]
    exact (reads _ _ _).mpr separable
  have key : Key.ofQualified? name "left" = some k := by
    rw [Key.ofQualified?, parsed]
    rfl
  exact ⟨separable, parsed, (made _ _ _ _ parsed).1, key, fun other => injective _ _ _ _ key,
    (told k l separable separable).mpr ⟨rfl, rfl, rfl⟩, ends, mt (reads _ _ _).mp ends⟩

end HalBench.Service
