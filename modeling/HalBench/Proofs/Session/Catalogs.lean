import HalBench.Machine
import HalBench.Proofs.Files.Replacing
import HalBench.Proofs.Index
import HalBench.Proofs.Text.Utf8
import HalBench.Session.State
import Mathlib.Data.List.Sort

/-! What a session tells of the specifications in directories depends on the files in them and
not on the order in which a directory gives its entries. The names of the interfaces are in
ascending order; a driver that tells of no functions has those of the specification in the file
of the smallest name. -/

namespace HalBench

theorem Files.Path.nameLe_iff {a b : Bytes} : nameLe a b = true ↔ a ≤ b := by
  induction a generalizing b with
  | nil => exact iff_of_true rfl (List.nil_le b)
  | cons x r ih =>
    cases b with
    | nil => exact iff_of_false nofun (List.not_le.mpr (List.nil_lt_cons x r))
    | cons y s =>
      rw [nameLe, List.cons_le_cons_iff, Bool.or_eq_true, Bool.and_eq_true, decide_eq_true_eq,
        beq_iff_eq, ih]

namespace Catalog

theorem extension?_append {stem ending : Bytes} (inner : stem ≠ []) (noPoint : 46 ∉ ending) :
    extension? (stem ++ 46 :: ending) = some ending := by
  have cut : (stem ++ 46 :: ending).reverse = ending.reverse ++ 46 :: stem.reverse := by simp
  have first : ((stem ++ 46 :: ending).reverse).takeWhile (· != 46) = ending.reverse := by
    rw [cut, List.takeWhile_append_of_pos, List.takeWhile_cons_of_neg (by decide), List.append_nil]
    intro b member
    rw [bne_iff_ne]
    rintro rfl
    exact noPoint (List.mem_reverse.mp member)
  rw [extension?]
  simp only [first]
  rw [cut, List.drop_left]
  obtain ⟨b, r, eq⟩ := List.exists_cons_of_ne_nil (List.reverse_ne_nil_iff.mpr inner)
  rw [eq]
  exact congrArg some (List.reverse_reverse ending)

theorem append_of_extension? {name ending : Bytes} (h : extension? name = some ending) :
    ∃ stem, stem ≠ [] ∧ name = stem ++ 46 :: ending := by
  simp only [extension?] at h
  have whole := List.takeWhile_append_dropWhile (p := (· != (46 : UInt8))) (l := name.reverse)
  have isPoint := List.head?_dropWhile_not (· != (46 : UInt8)) name.reverse
  generalize name.reverse.takeWhile (· != 46) = last at h whole
  generalize name.reverse.dropWhile (· != 46) = rest at whole isPoint
  rw [← whole, List.drop_left] at h
  split at h
  next point b r =>
    obtain rfl := Option.some.inj h
    obtain rfl : point = 46 := bne_eq_false_iff_eq.mp isPoint
    refine ⟨(b :: r).reverse, List.reverse_ne_nil_iff.mpr (List.cons_ne_nil b r), ?_⟩
    rw [← List.reverse_inj, ← whole, List.reverse_append, List.reverse_cons, List.reverse_reverse,
      List.reverse_reverse, List.append_assoc]
    rfl
  · cases h

theorem isSpecName_iff {name : Bytes} :
    isSpecName name = true ↔ ∃ stem, stem ≠ [] ∧ name = stem ++ Utf8.bytes ".toml" := by
  rw [isSpecName, beq_iff_eq]
  constructor
  · exact append_of_extension?
  · rintro ⟨stem, inner, rfl⟩
    exact extension?_append inner (by decide)

/-- The specification in a file, if it is one for them and holds one. -/
def specIn (entry : Bytes × Option Bytes) : Option Spec :=
  if isSpecName entry.1 then entry.2.bind Spec.ofBytes? else none

/-- A specification in a file of a listing, whose name ends in `.toml`. -/
def Holds (listing : Listing) (file : Bytes) (s : Spec) : Prop :=
  ∃ stem content, stem ≠ [] ∧ file = stem ++ Utf8.bytes ".toml" ∧
    (file, some content) ∈ listing ∧ Spec.ofBytes? content = some s

/-- A name in a directory stands for one file. -/
def OneFileEach (listing : Listing) : Prop :=
  ∀ file content content', (file, content) ∈ listing → (file, content') ∈ listing →
    content = content'

variable {listing : Listing} {file : Bytes} {s : Spec}

theorem holds_iff :
    Holds listing file s ↔ ∃ entry ∈ listing, entry.1 = file ∧ specIn entry = some s := by
  constructor
  · rintro ⟨stem, content, inner, rfl, member, parsed⟩
    refine ⟨_, member, rfl, ?_⟩
    rw [specIn, if_pos (isSpecName_iff.mpr ⟨stem, inner, rfl⟩)]
    exact parsed
  · rintro ⟨⟨name, content?⟩, member, rfl, found⟩
    rw [specIn] at found
    split at found
    next named =>
      obtain ⟨content, rfl, parsed⟩ := Option.bind_eq_some_iff.mp found
      obtain ⟨stem, inner, eq⟩ := isSpecName_iff.mp named
      exact ⟨stem, content, inner, eq, member, parsed⟩
    · cases found

theorem named_of_specIn {e : Bytes × Option Bytes} (h : specIn e = some s) :
    isSpecName e.1 = true := by
  by_contra unnamed
  rw [specIn, if_neg unnamed] at h
  cases h

/-- The files of specifications are taken in the order of their names. -/
theorem specsOf_eq (listing : Listing) :
    ∃ files : Listing, specsOf listing = files.filterMap specIn ∧
      files.Pairwise (fun a b => a.1 ≤ b.1) ∧
      ∀ e, e ∈ files ↔ e ∈ listing ∧ isSpecName e.1 = true := by
  let le (a b : Bytes × Option Bytes) := Files.Path.nameLe a.1 b.1
  have leIff {a b} : le a b = true ↔ a.1 ≤ b.1 := Files.Path.nameLe_iff
  let named := listing.filter fun e => isSpecName e.1
  have member (e) : e ∈ named.mergeSort le ↔ e ∈ listing ∧ isSpecName e.1 = true := by
    rw [List.mem_mergeSort, List.mem_filter]
  refine ⟨named.mergeSort le, ?_, ?_, member⟩
  · apply List.filterMap_congr
    intro e inside
    rw [specIn, if_pos ((member e).mp inside).2]
  · have ordered : (named.mergeSort le).Pairwise fun a b => le a b = true := by
      apply List.pairwise_mergeSort
      · intro a b c first second
        exact leIff.mpr (List.le_trans (leIff.mp first) (leIff.mp second))
      · intro a b
        rw [Bool.or_eq_true, leIff, leIff]
        exact List.le_total a.1 b.1
    exact ordered.imp leIff.mp

theorem mem_specsOf : s ∈ specsOf listing ↔ ∃ file, Holds listing file s := by
  obtain ⟨files, eq, -, member⟩ := specsOf_eq listing
  rw [eq, List.mem_filterMap]
  constructor
  · rintro ⟨e, inside, found⟩
    exact ⟨e.1, holds_iff.mpr ⟨e, ((member e).mp inside).1, rfl, found⟩⟩
  · rintro ⟨file, holds⟩
    obtain ⟨e, inside, -, found⟩ := holds_iff.mp holds
    exact ⟨e, (member e).mpr ⟨inside, named_of_specIn found⟩, found⟩

theorem message_error (p : String) (fault : SystemFault) :
    Error.message ⟨Files.Path.ofString p, fault⟩ =
      "Spec directory not readable: " ++ p ++ ": " ++ fault.message :=
  congrArg (fun dir => "Spec directory not readable: " ++ dir ++ ": " ++ fault.message)
    (Utf8.stringLossy_bytes p)

/-- Whether a listing has the entries of another in some order, and besides them only entries
that hold no specification. -/
def Grown (listing listing' : Listing) : Prop :=
  ∃ more, listing'.Perm (listing ++ more) ∧ ∀ file s, ¬ Holds more file s

theorem Grown.holds_iff {listing' : Listing} (h : Grown listing listing') :
    Holds listing' file s ↔ Holds listing file s := by
  obtain ⟨more, perm, idle⟩ := h
  have member {e} : e ∈ listing' ↔ e ∈ listing ∨ e ∈ more := perm.mem_iff.trans List.mem_append
  constructor
  · rintro ⟨stem, content, inner, named, inside, parsed⟩
    rcases member.mp inside with old | new
    · exact ⟨stem, content, inner, named, old, parsed⟩
    · exact absurd ⟨stem, content, inner, named, new, parsed⟩ (idle file s)
  · rintro ⟨stem, content, inner, named, inside, parsed⟩
    exact ⟨stem, content, inner, named, member.mpr (.inl inside), parsed⟩

theorem Grown.oneFileEach {listing' : Listing} (h : Grown listing listing')
    (one : OneFileEach listing') : OneFileEach listing := by
  obtain ⟨more, perm, -⟩ := h
  intro file content content' member member'
  apply one file content content'
  · exact perm.mem_iff.mpr (List.mem_append_left more member)
  · exact perm.mem_iff.mpr (List.mem_append_left more member')

def Describes (s : Spec) (key : Service.Key) : Prop :=
  s.package = key.package ∧ s.version = key.version ∧ s.interface = key.interface

/-- The specification of an interface in the file of the smallest name. -/
def IsFirst (listing : Listing) (key : Service.Key) (s : Spec) : Prop :=
  ∃ file, Holds listing file s ∧ Describes s key ∧
    ∀ file' s', Holds listing file' s' → Describes s' key → file ≤ file'

variable {key : Service.Key}

theorem holds_unique (one : OneFileEach listing) {s s' : Spec} (h : Holds listing file s)
    (h' : Holds listing file s') : s = s' := by
  obtain ⟨stem, content, -, rfl, member, parsed⟩ := h
  obtain ⟨stem', content', -, -, member', parsed'⟩ := h'
  obtain rfl := Option.some.inj (one _ _ _ member member')
  exact Option.some.inj (parsed.symm.trans parsed')

theorem isFirst_unique (one : OneFileEach listing) {s s' : Spec} (h : IsFirst listing key s)
    (h' : IsFirst listing key s') : s = s' := by
  obtain ⟨file, holds, describes, least⟩ := h
  obtain ⟨file', holds', describes', least'⟩ := h'
  have same : file = file' :=
    List.le_antisymm (least file' s' holds' describes') (least' file s holds describes)
  subst same
  exact holds_unique one holds holds'

/-- What is found first along an ordered list comes from the least place at which it could be. -/
theorem least_of_find? {α β : Type} {R : α → α → Prop} (refl : ∀ a, R a a) {f : α → Option β}
    {p : β → Bool} {l : List α} {b : β} (ordered : l.Pairwise R)
    (h : (l.filterMap f).find? p = some b) :
    ∃ a ∈ l, f a = some b ∧ ∀ a' ∈ l, ∀ b', f a' = some b' → p b' = true → R a a' := by
  rw [List.find?_filterMap] at h
  obtain ⟨a, found, value⟩ := Option.bind_eq_some_iff.mp h
  obtain ⟨-, before, after, rfl, passed⟩ := List.find?_eq_some_iff_append.mp found
  refine ⟨a, List.mem_append_right before List.mem_cons_self, value, ?_⟩
  intro a' member b' value' chosen
  rcases List.mem_append.mp member with earlier | later
  · have skipped := passed a' earlier
    rw [value', Option.any_some, chosen] at skipped
    cases skipped
  · rcases List.mem_cons.mp later with rfl | behind
    · exact refl a'
    · exact (List.pairwise_cons.mp (List.pairwise_append.mp ordered).2.1).1 a' behind

theorem describes_iff :
    (s.package == key.package && s.version == key.version && s.interface == key.interface) = true ↔
      Describes s key := by
  simp only [Describes, Bool.and_eq_true, beq_iff_eq, and_assoc]

theorem isFirst_of_find?
    (h : find? ⟨specsOf listing⟩ key.package key.version key.interface = some s) :
    IsFirst listing key s := by
  obtain ⟨files, eq, ordered, member⟩ := specsOf_eq listing
  simp only [find?, eq] at h
  have chosen := List.find?_some h
  obtain ⟨e, inside, found, least⟩ := least_of_find? (fun a => List.le_refl a.1) ordered h
  refine ⟨e.1, holds_iff.mpr ⟨e, ((member e).mp inside).1, rfl, found⟩, describes_iff.mp chosen, ?_⟩
  intro file' s' holds' describes'
  obtain ⟨e', inside', rfl, found'⟩ := holds_iff.mp holds'
  exact least e' ((member e').mpr ⟨inside', named_of_specIn found'⟩) s' found'
    (describes_iff.mpr describes')

theorem find?_eq_none_iff :
    find? ⟨specsOf listing⟩ key.package key.version key.interface = none ↔
      ∀ file s, Holds listing file s → ¬ Describes s key := by
  simp only [find?, List.find?_eq_none, mem_specsOf, describes_iff]
  constructor
  · intro none file s holds
    exact none s ⟨file, holds⟩
  · rintro none s ⟨file, holds⟩
    exact none file s holds

/-- The specification of an interface that a catalog finds is in the file of the smallest name. -/
theorem find?_eq_some_iff (one : OneFileEach listing) :
    find? ⟨specsOf listing⟩ key.package key.version key.interface = some s ↔
      IsFirst listing key s := by
  refine ⟨isFirst_of_find?, fun first => ?_⟩
  cases found : find? ⟨specsOf listing⟩ key.package key.version key.interface with
  | none =>
    obtain ⟨file, holds, describes, -⟩ := first
    exact absurd describes (find?_eq_none_iff.mp found file s holds)
  | some s' => exact congrArg some (isFirst_unique one (isFirst_of_find? found) first)

theorem find?_grown {listing' : Listing} (grown : Grown listing listing')
    (one : OneFileEach listing') :
    find? ⟨specsOf listing'⟩ key.package key.version key.interface =
      find? ⟨specsOf listing⟩ key.package key.version key.interface := by
  apply Option.ext
  intro s
  rw [find?_eq_some_iff one, find?_eq_some_iff (grown.oneFileEach one), IsFirst, IsFirst]
  simp only [grown.holds_iff]

end Catalog

theorem Files.Tree.oneFileEach {files : Tree} {dir : Path} {listing : Listing}
    (h : files.listing dir = .ok listing) : Catalog.OneFileEach listing := by
  rw [Tree.listing] at h
  cases listed : files.list dir with
  | error fault =>
    rw [listed] at h
    cases h
  | ok names =>
    rw [listed] at h
    cases h
    intro file content content' member member'
    obtain ⟨name, -, same⟩ := List.mem_map.mp member
    obtain ⟨name', -, same'⟩ := List.mem_map.mp member'
    obtain ⟨rfl, rfl⟩ := Prod.mk.inj same
    obtain ⟨rfl, rfl⟩ := Prod.mk.inj same'
    rfl

namespace Files.Tree

variable {t : Tree} {p : Path} {dir name content : Bytes} {executable : Bool}

def Along (t : Tree) (p : Path) (names : List Bytes) : Prop :=
  p.contains 0 = false ∧ p ≠ [] ∧ p.length < maxPath ∧ t.start p = [] ∧ p.steps = names ∧
    ∀ name ∈ names, Proper name

instance (t : Tree) (p : Path) (names : List Bytes) : Decidable (t.Along p names) :=
  inferInstanceAs (Decidable (_ ∧ _))

theorem list_along (along : t.Along p [dir]) (inner : t.node? [dir] = some .directory) :
    t.list p = .ok (t.children [dir]) := by
  obtain ⟨noNul, notEmpty, short, start, steps, proper⟩ := along
  have walked : t.walk .node maxLinks (t.start p) p.steps = .ok (.present [dir] .directory) := by
    rw [start, steps]
    exact walk_of_leads (.down (proper dir List.mem_cons_self) inner (.done _)) (Nat.zero_le _)
  rw [list, locate_of_walk noNul notEmpty short walked]
  rfl

theorem read_along (along : t.Along p [dir, name]) (inner : t.node? [dir] = some .directory)
    (found : t.node? [dir, name] = some (.file content executable)) : t.read p = .ok content := by
  obtain ⟨noNul, notEmpty, short, start, steps, proper⟩ := along
  have leads : t.Leads 0 (t.start p) p.steps [dir, name] (.file content executable) := by
    rw [start, steps]
    apply Leads.down (proper dir List.mem_cons_self) inner
    exact .stop (proper name (List.mem_cons_of_mem dir List.mem_cons_self)) found nofun nofun
  exact read_of_look (look_of_leads noNul notEmpty short leads (Nat.zero_le _))

theorem listing_two {first second content' : Bytes} {executable' : Bool} (along : t.Along p [dir])
    (inner : t.node? [dir] = some .directory) (names : t.children [dir] = [first, second])
    (alongFirst : t.Along (p.join first) [dir, first])
    (alongSecond : t.Along (p.join second) [dir, second])
    (found : t.node? [dir, first] = some (.file content executable))
    (found' : t.node? [dir, second] = some (.file content' executable')) :
    t.listing p = .ok [(first, some content), (second, some content')] := by
  have read := read_along alongFirst inner found
  have read' := read_along alongSecond inner found'
  rw [listing, list_along along inner, names]
  change Except.ok [(first, (t.read (p.join first)).toOption),
    (second, (t.read (p.join second)).toOption)] = _
  rw [read, read']
  rfl

end Files.Tree

namespace Session

open Catalog Files

section Listings

variable (δ : Type) {ω : Type} [Host δ ω] (w : ω)

def Readable (p : String) : Prop := ∃ listing, Host.listing δ (Path.ofString p) w = .ok listing

/-- Whether one of some directories has a specification of the interface of a name. -/
def Offers (paths : List String) (name : String) : Prop :=
  ∃ p ∈ paths, ∃ listing file s, Host.listing δ (Path.ofString p) w = .ok listing ∧
    Holds listing file s ∧ s.qualifiedName = name

variable {δ w} {paths : List String}

theorem catalogOf_ok (readable : ∀ p ∈ paths, Readable δ w p) (c : Catalog) :
    ∃ specs, State.catalogOf δ w (paths.map Path.ofString) c = .ok ⟨c.specs ++ specs⟩ ∧
      ∀ s, s ∈ specs ↔ ∃ p ∈ paths, ∃ listing file,
        Host.listing δ (Path.ofString p) w = .ok listing ∧ Holds listing file s := by
  induction paths generalizing c with
  | nil => exact ⟨[], by rw [List.append_nil]; rfl, by simp⟩
  | cons p paths ih =>
    obtain ⟨listing, listed⟩ := readable p List.mem_cons_self
    obtain ⟨specs, run, member⟩ :=
      ih (fun q inside => readable q (List.mem_cons_of_mem p inside)) ⟨c.specs ++ specsOf listing⟩
    refine ⟨specsOf listing ++ specs, ?_, ?_⟩
    · rw [List.map_cons, State.catalogOf, listed, ← List.append_assoc]
      exact run
    · intro s
      rw [List.mem_append, mem_specsOf, member, List.exists_mem_cons_iff]
      refine or_congr_left ⟨?_, ?_⟩
      · rintro ⟨file, holds⟩
        exact ⟨listing, file, listed, holds⟩
      · rintro ⟨listing', file, listed', holds⟩
        rw [listed] at listed'
        cases listed'
        exact ⟨file, holds⟩

theorem catalogOf_error {before after : List String} {p : String} {fault : SystemFault}
    (readable : ∀ q ∈ before, Readable δ w q)
    (fails : Host.listing δ (Path.ofString p) w = .error fault) (c : Catalog) :
    State.catalogOf δ w ((before ++ p :: after).map Path.ofString) c =
      .error ⟨Path.ofString p, fault⟩ := by
  induction before generalizing c with
  | nil =>
    rw [List.nil_append, List.map_cons, State.catalogOf, fails]
    rfl
  | cons q before ih =>
    obtain ⟨listing, listed⟩ := readable q List.mem_cons_self
    rw [List.cons_append, List.map_cons, State.catalogOf, listed]
    exact ih (fun r inside => readable r (List.mem_cons_of_mem q inside)) _

/-- The full names of the interfaces in directories that can all be listed. -/
theorem listServices_ok [Driver.Model δ ω] (h : State δ) (some : paths ≠ [])
    (readable : ∀ p ∈ paths, Readable δ w p) :
    ∃ names, h.listServices paths w = .answer (.services names) ∧ names.Pairwise (· < ·) ∧
      ∀ name, name ∈ names ↔ Offers δ w paths name := by
  obtain ⟨specs, run, member⟩ := catalogOf_ok readable {}
  refine ⟨Catalog.names ⟨[] ++ specs⟩, ?_, Index.ascending_keys _, ?_⟩
  · rw [State.listServices, if_neg (by rwa [List.isEmpty_iff]), run]
  · intro name
    rw [Catalog.names, Index.mem_keys_ofList, List.map_map, List.mem_map, List.nil_append]
    constructor
    · rintro ⟨s, inside, rfl⟩
      obtain ⟨p, inPaths, listing, file, listed, holds⟩ := (member s).mp inside
      exact ⟨p, inPaths, listing, file, s, listed, holds, rfl⟩
    · rintro ⟨p, inPaths, listing, file, s, listed, holds, rfl⟩
      exact ⟨s, (member s).mpr ⟨p, inPaths, listing, file, listed, holds⟩, rfl⟩

theorem listServices_error [Driver.Model δ ω] (h : State δ) {before after : List String}
    {p : String} {fault : SystemFault} (readable : ∀ q ∈ before, Readable δ w q)
    (fails : Host.listing δ (Path.ofString p) w = .error fault) :
    h.listServices (before ++ p :: after) w =
      .failure ("Spec directory not readable: " ++ p ++ ": " ++ fault.message) := by
  have some : (before ++ p :: after).isEmpty = false :=
    List.isEmpty_eq_false_iff.mpr
      (List.append_ne_nil_of_right_ne_nil before (List.cons_ne_nil p after))
  rw [State.listServices, if_neg (by rw [some]; exact Bool.false_ne_true),
    catalogOf_error readable fails]
  exact congrArg Response.failure (message_error p fault)

/-- The same files give the same names, in whatever order and however often they are met. -/
theorem listServices_congr [Driver.Model δ ω] (h : State δ) {w' : ω} {paths' : List String}
    (some : paths ≠ []) (same : ∀ p, p ∈ paths' ↔ p ∈ paths)
    (grown : ∀ p ∈ paths, ∃ listing listing', Host.listing δ (Path.ofString p) w = .ok listing ∧
      Host.listing δ (Path.ofString p) w' = .ok listing' ∧ Grown listing listing') :
    h.listServices paths' w' = h.listServices paths w := by
  have some' : paths' ≠ [] := by
    obtain ⟨p, inside⟩ := List.exists_mem_of_ne_nil paths some
    exact List.ne_nil_of_mem ((same p).mpr inside)
  obtain ⟨names, answer, ascending, member⟩ := listServices_ok h some fun p inside => by
    obtain ⟨listing, -, listed, -, -⟩ := grown p inside
    exact ⟨listing, listed⟩
  obtain ⟨names', answer', ascending', member'⟩ := listServices_ok h some' fun p inside => by
    obtain ⟨-, listing', -, listed', -⟩ := grown p ((same p).mp inside)
    exact ⟨listing', listed'⟩
  have offers (name : String) : Offers δ w' paths' name ↔ Offers δ w paths name := by
    constructor
    · rintro ⟨p, inside, listing', file, s, listed', holds, named⟩
      obtain ⟨listing, l, listed, listedL, more⟩ := grown p ((same p).mp inside)
      obtain rfl := Except.ok.inj (listedL.symm.trans listed')
      exact ⟨p, (same p).mp inside, listing, file, s, listed, more.holds_iff.mp holds, named⟩
    · rintro ⟨p, inside, listing, file, s, listed, holds, named⟩
      obtain ⟨l, listing', listedL, listed', more⟩ := grown p inside
      obtain rfl := Except.ok.inj (listedL.symm.trans listed)
      exact ⟨p, (same p).mpr inside, listing', file, s, listed', more.holds_iff.mpr holds, named⟩
  have equal : names' = names := by
    apply List.Pairwise.eq_of_mem_iff ascending' ascending
    intro name
    rw [member', member, offers]
  rw [answer, answer', equal]

section Functions

variable [Driver.Model δ ω] {h : State δ} {id : Driver.Id} {key : Service.Key}
  {drivers : Driver.Table δ} {w' : ω} {listing : Listing}

/-- The functions of a driver that tells of none are those of the first specification. -/
theorem listFunctions_specified (known : h.drivers.key? id = some key)
    (quiet : h.drivers.functions id w = ([], drivers, w'))
    (listed : Host.listing δ h.config.drivers.specs w' = .ok listing) :
    (h.listFunctions id w).1 = .answer (.functions
      (((find? ⟨specsOf listing⟩ key.package key.version key.interface).map (·.functions)).getD
        [])) := by
  rw [State.listFunctions, known]
  simp only [quiet, List.isEmpty_nil, if_true, listed]
  rfl

end Functions

/-- The names of the interfaces in directories, and the functions of a driver that tells of none,
are told by the files in the directories alone: neither the order nor the number of the paths nor
the order of the entries makes a difference, and files that hold no specification make none. -/
theorem catalogs_of_files [Driver.Model δ ω] (h : State δ) (w : ω) :
    (∀ paths, paths ≠ [] → (∀ p ∈ paths, Readable δ w p) →
      ∃ names, h.listServices paths w = .answer (.services names) ∧
        names.Pairwise (fun a b => Utf8.bytes a < Utf8.bytes b) ∧
        ∀ name, name ∈ names ↔ Offers δ w paths name) ∧
    (∀ before p after fault, (∀ q ∈ before, Readable δ w q) →
      Host.listing δ (Path.ofString p) w = .error fault →
      h.listServices (before ++ p :: after) w =
        .failure ("Spec directory not readable: " ++ p ++ ": " ++ fault.message)) ∧
    (∀ paths paths' w', paths ≠ [] → (∀ p, p ∈ paths' ↔ p ∈ paths) →
      (∀ p ∈ paths, ∃ listing listing', Host.listing δ (Path.ofString p) w = .ok listing ∧
        Host.listing δ (Path.ofString p) w' = .ok listing' ∧ Grown listing listing') →
      h.listServices paths' w' = h.listServices paths w) ∧
    ∀ id key drivers after listing, h.drivers.key? id = some key →
      h.drivers.functions id w = ([], drivers, after) →
      Host.listing δ h.config.drivers.specs after = .ok listing → OneFileEach listing →
      (∃ found : Option Spec,
        (h.listFunctions id w).1 = .answer (.functions ((found.map (·.functions)).getD [])) ∧
        (∀ s, found = some s ↔ IsFirst listing key s) ∧
        (found = none ↔ ∀ file s, Holds listing file s → ¬ Describes s key)) ∧
      ∀ w' drivers' after' listing', h.drivers.functions id w' = ([], drivers', after') →
        Host.listing δ h.config.drivers.specs after' = .ok listing' → OneFileEach listing' →
        Grown listing listing' → (h.listFunctions id w').1 = (h.listFunctions id w).1 := by
  refine ⟨?_, ?_, ?_, ?_⟩
  · intro paths some readable
    obtain ⟨names, answer, ascending, member⟩ := listServices_ok h some readable
    exact ⟨names, answer, ascending.imp Utf8.bytes_lt, member⟩
  · intro before p after fault readable fails
    exact listServices_error h readable fails
  · intro paths paths' w' some same grown
    exact listServices_congr h some same grown
  · intro id key drivers after listing known quiet listed one
    have answer := listFunctions_specified known quiet listed
    refine ⟨⟨_, answer, fun s => find?_eq_some_iff one, find?_eq_none_iff⟩, ?_⟩
    intro w' drivers' after' listing' quiet' listed' one' grown
    rw [answer, listFunctions_specified known quiet' listed', find?_grown grown one']

end Listings

def lightWith (function : String) : Spec where
  package := "hal"
  version := "1.0"
  interface := "ILight"
  functions := [function]

def textWith (function : String) : Bytes :=
  Utf8.bytes <| "package = 'hal'\nversion = '1.0'\ninterface = 'ILight'\napis = ['" ++
    function ++ "']"

/-- Two directories with specifications, and files that are none. -/
def twoDirectories : Machine where
  files := { nodes :=
    [([Utf8.bytes "a"], .directory),
      ([Utf8.bytes "a", Utf8.bytes "second.toml"], .file (textWith "second") false),
      ([Utf8.bytes "a", Utf8.bytes "first.toml"], .file (textWith "first") false),
      ([Utf8.bytes "b"], .directory),
      ([Utf8.bytes "b", Utf8.bytes "first.txt"], .file (textWith "first") false),
      ([Utf8.bytes "b", Utf8.bytes "broken.toml"], .file (Utf8.bytes "broken") false)] }

theorem listing_a : twoDirectories.files.listing (Path.ofString "/a") =
    .ok [(Utf8.bytes "second.toml", some (textWith "second")),
      (Utf8.bytes "first.toml", some (textWith "first"))] := by
  have along : twoDirectories.files.Along (Path.ofString "/a") [Utf8.bytes "a"] := by decide
  exact Tree.listing_two along rfl rfl (by decide) (by decide) rfl rfl

theorem listing_b : twoDirectories.files.listing (Path.ofString "/b") =
    .ok [(Utf8.bytes "first.txt", some (textWith "first")),
      (Utf8.bytes "broken.toml", some (Utf8.bytes "broken"))] := by
  have along : twoDirectories.files.Along (Path.ofString "/b") [Utf8.bytes "b"] := by decide
  exact Tree.listing_two along rfl rfl (by decide) (by decide) rfl rfl

theorem listing_nowhere : twoDirectories.files.listing (Path.ofString "") = .error .noSuchFile :=
  rfl

theorem catalogs_of_files_two :
    let light : Service.Key := ⟨"hal", "1.0", "ILight", "default"⟩
    let drivers := (({} : Driver.Table Attached).register light default (.scripted {})).2
    let h : State Attached :=
      { config := ⟨{ specs := Path.ofString "/a" }, [], default⟩, drivers }
    let m := twoDirectories
    (∃ names, h.listServices ["/a", "/b"] m = .answer (.services names) ∧
      "hal@1.0::ILight" ∈ names) ∧
    h.listServices ["/a", "", "/b"] m =
      .failure ("Spec directory not readable: : " ++ SystemFault.noSuchFile.message) ∧
    h.listServices ["/b", "/a", "/b"] m = h.listServices ["/a", "/b"] m ∧
    (h.listFunctions 0 m).1 = .answer (.functions ["first"]) := by
  intro light drivers h m
  obtain ⟨names, unreadable, congr, functions⟩ := catalogs_of_files h m
  have readableA : Readable Attached m "/a" := ⟨_, listing_a⟩
  have readableB : Readable Attached m "/b" := ⟨_, listing_b⟩
  have readable : ∀ p ∈ ["/a", "/b"], Readable Attached m p := by
    simp only [List.forall_mem_cons, readableA, readableB, List.not_mem_nil, false_implies,
      implies_true, and_self]
  have holds (before : Bytes × Option Bytes) :
      Holds [before, (Utf8.bytes "first.toml", some (textWith "first"))]
        (Utf8.bytes "first.toml") (lightWith "first") := by
    refine ⟨Utf8.bytes "first", textWith "first", by decide, by decide, ?_, by decide +kernel⟩
    exact List.mem_cons_of_mem before List.mem_cons_self
  refine ⟨?_, ?_, ?_, ?_⟩
  · obtain ⟨names, answer, -, member⟩ := names ["/a", "/b"] (List.cons_ne_nil _ _) readable
    refine ⟨names, answer, (member _).mpr ?_⟩
    exact ⟨"/a", List.mem_cons_self, _, _, lightWith "first", listing_a, holds _, rfl⟩
  · apply unreadable ["/a"] "" ["/b"] .noSuchFile _ listing_nowhere
    simp only [List.forall_mem_singleton, readableA]
  · apply congr ["/a", "/b"] ["/b", "/a", "/b"] m (List.cons_ne_nil _ _)
    · intro p
      simp only [List.mem_cons, List.not_mem_nil, or_false]
      exact or_iff_right_of_imp .inr
    · intro p inside
      obtain ⟨listing, listed⟩ := readable p inside
      refine ⟨listing, listing, listed, listed, [], by rw [List.append_nil], ?_⟩
      rintro file s ⟨stem, content, -, -, member, -⟩
      cases member
  · obtain ⟨⟨found, answer, first, -⟩, -⟩ :=
      functions 0 light drivers m _ rfl rfl listing_a (Tree.oneFileEach listing_a)
    have chosen : found = some (lightWith "first") := by
      refine (first _).mpr ⟨_, holds _, ⟨rfl, rfl, rfl⟩, ?_⟩
      rintro file s ⟨stem, content, -, -, member, -⟩ -
      rcases List.mem_pair.mp member with same | same
      · cases same
        decide
      · cases same
        exact List.le_refl _
    rw [answer, chosen]
    rfl

end Session

end HalBench
