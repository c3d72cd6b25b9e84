import HalBench.Proofs.Text.Cut
import HalBench.Tool.Options

/-! The grammar of the options of a replay. Arguments are accepted exactly when they are groups of
an option and a value, of which the last one of a name counts. Other arguments are refused for what
stands behind the groups at their front. -/

namespace HalBench.Tool.ReplayChoice

def Name.text : Name → String
  | driver => "--driver"
  | specs => "--spec-dir"
  | service => "--service"

/-- A name and the instance for it, with an equals sign between them; the name has none. -/
structure Mapping where
  name : String
  service : String
  someName : name ≠ ""
  plain : '=' ∉ name.toList
  someService : service ≠ ""

def Mapping.text (m : Mapping) : String := m.name ++ "=" ++ m.service

inductive Group where
  | driver (path : String)
  | specs (path : String)
  | service (mapping : Mapping)

namespace Group

def option : Group → Name
  | driver _ => .driver
  | specs _ => .specs
  | service _ => .service

def value : Group → String
  | driver path => path
  | specs path => path
  | service mapping => mapping.text

def arguments (g : Group) : List String := [g.option.text, g.value]

def driver? : Group → Option String
  | driver path => some path
  | _ => none

def specs? : Group → Option String
  | specs path => some path
  | _ => none

def instance? (name : String) : Group → Option String
  | service mapping => if mapping.name = name then some mapping.service else none
  | _ => none

def changed (o : ReplayChoice) : Group → ReplayChoice
  | driver path => { o with driver := .ofString path }
  | specs path => { o with specs := .ofString path }
  | service mapping => { o with instances := o.instances.insert mapping.name mapping.service }

end Group

def joined (groups : List Group) : List String := groups.flatMap Group.arguments

def last (gives : Group → Option String) (groups : List Group) : Option String :=
  (groups.filterMap gives).getLast?

/-- The options that groups make of others: what the last group of a name says, or else what was
there before. -/
structure Says (start : ReplayChoice) (groups : List Group) (o : ReplayChoice) : Prop where
  driver : o.driver = ((last Group.driver? groups).map Files.Path.ofString).getD start.driver
  specs : o.specs = ((last Group.specs? groups).map Files.Path.ofString).getD start.specs
  instances : ∀ name, o.instances.get? name =
    (last (Group.instance? name) groups).or (start.instances.get? name)

/-- Arguments at whose front stands no group, and why. -/
inductive Fails : List String → Error → Prop
  | missingValue (option : Name) : Fails [option.text] (.missingValue option.text)
  | badMapping {text : String} (bad : ∀ m : Mapping, text ≠ m.text) (rest : List String) :
    Fails (Name.service.text :: text :: rest) (.badMapping text)
  | unknown {name : String} (other : ∀ option : Name, name ≠ option.text) (rest : List String) :
    Fails (name :: rest) (.unknown name)

variable {o start : ReplayChoice} {arguments rest : List String} {groups : List Group} {e : Error}

theorem mapping?_text (m : Mapping) : mapping? m.text = some (m.name, m.service) := by
  have cut : Text.cut ['='] m.text.toList = some (m.name.toList, m.service.toList) := by
    have whole : m.text.toList = m.name.toList ++ (['='] ++ m.service.toList) := by
      simp [Mapping.text]
    rw [whole]
    exact Text.cut_append m.plain
  have name : m.name.toList.isEmpty = false := by simp [m.someName]
  have service : m.service.toList.isEmpty = false := by simp [m.someService]
  simp only [mapping?, cut, name, service, Bool.or_false, Bool.false_eq_true, if_false,
    String.ofList_toList]

theorem mapping?_eq_none {text : String} :
    mapping? text = none ↔ ∀ m : Mapping, text ≠ m.text := by
  constructor
  · intro none m same
    rw [same, mapping?_text] at none
    cases none
  · intro bad
    unfold mapping?
    cases found : Text.cut ['='] text.toList with
    | none => rfl
    | some parts =>
      obtain ⟨name, service⟩ := parts
      have whole := Text.append_of_cut found
      have plain := Text.not_mem_of_cut found
      simp only
      split
      · rfl
      next inner =>
        simp only [Bool.or_eq_true, List.isEmpty_iff, not_or] at inner
        have someName : String.ofList name ≠ "" := by simp [inner.1]
        have someService : String.ofList service ≠ "" := by simp [inner.2]
        refine absurd ?_ (bad ⟨_, _, someName, by simpa using plain, someService⟩)
        apply String.toList_inj.mp
        simp [Mapping.text, whole]

theorem option?_text (option : Name) : option? option.text = some option := by
  cases option <;> rfl

theorem option?_eq_none {name : String} :
    option? name = none ↔ ∀ option : Name, name ≠ option.text := by
  constructor
  · intro none option same
    rw [same, option?_text] at none
    cases none
  · intro other
    unfold option?
    split
    · exact absurd rfl (other .driver)
    · exact absurd rfl (other .specs)
    · exact absurd rfl (other .service)
    · rfl

theorem text_injective {option option' : Name} (h : option.text = option'.text) :
    option = option' := by
  have same := option?_text option
  rw [h, option?_text] at same
  exact (Option.some.inj same).symm

theorem parseFrom_cons (o : ReplayChoice) (option : Name) (value : String) (rest : List String) :
    parseFrom o (option.text :: value :: rest) = o.set option value >>= (parseFrom · rest) := by
  simp only [parseFrom, option?_text]

theorem set_value (o : ReplayChoice) (g : Group) : o.set g.option g.value = .ok (g.changed o) := by
  cases g with
  | driver path => rfl
  | specs path => rfl
  | service m => simp only [Group.option, Group.value, set, mapping?_text, Group.changed]

theorem parseFrom_group (o : ReplayChoice) (g : Group) (rest : List String) :
    parseFrom o (g.arguments ++ rest) = parseFrom (g.changed o) rest := by
  show parseFrom o (g.option.text :: g.value :: rest) = _
  rw [parseFrom_cons, set_value]
  rfl

theorem parseFrom_joined (o : ReplayChoice) (groups : List Group) (rest : List String) :
    parseFrom o (joined groups ++ rest) = parseFrom (groups.foldl Group.changed o) rest := by
  induction groups generalizing o with
  | nil => rfl
  | cons g groups ih =>
    rw [joined, List.flatMap_cons, List.append_assoc, parseFrom_group, List.foldl_cons]
    exact ih (g.changed o)

theorem parseFrom_fails (fails : Fails rest e) (o : ReplayChoice) :
    parseFrom o rest = .error e := by
  cases fails with
  | missingValue option => simp only [parseFrom, option?_text]
  | @badMapping text bad rest =>
    rw [parseFrom_cons, set, mapping?_eq_none.mpr bad]
    rfl
  | @unknown name other rest =>
    have none := option?_eq_none.mpr other
    cases rest with
    | nil => simp only [parseFrom, none]
    | cons value rest => simp only [parseFrom, none]

/-- At the front of arguments stands a group, or there is a reason why none does. -/
theorem front (arguments : List String) : arguments = [] ∨
    (∃ g rest, arguments = Group.arguments g ++ rest) ∨ ∃ e, Fails arguments e := by
  cases arguments with
  | nil => exact .inl rfl
  | cons name rest =>
    right
    by_cases other : ∀ option : Name, name ≠ option.text
    · exact .inr ⟨_, .unknown other rest⟩
    · obtain ⟨option, same⟩ := not_forall.mp other
      obtain rfl := not_not.mp same
      cases rest with
      | nil => exact .inr ⟨_, .missingValue option⟩
      | cons value rest =>
        cases option with
        | driver => exact .inl ⟨.driver value, rest, rfl⟩
        | specs => exact .inl ⟨.specs value, rest, rfl⟩
        | service =>
          by_cases bad : ∀ m : Mapping, value ≠ m.text
          · exact .inr ⟨_, .badMapping bad rest⟩
          · obtain ⟨m, same⟩ := not_forall.mp bad
            obtain rfl := not_not.mp same
            exact .inl ⟨.service m, rest, rfl⟩

theorem length_arguments (g : Group) : g.arguments.length = 2 := rfl

/-- Arguments are groups, or groups and something at whose front stands none. -/
theorem exists_joined (arguments : List String) : ∃ groups rest,
    arguments = joined groups ++ rest ∧ (rest = [] ∨ ∃ e, Fails rest e) := by
  induction n : arguments.length using Nat.strongRecOn generalizing arguments with
  | _ n ih =>
    rcases front arguments with none | ⟨g, more, rfl⟩ | fails
    · exact ⟨[], arguments, rfl, .inl none⟩
    · rw [List.length_append, length_arguments] at n
      obtain ⟨groups, rest, whole, ended⟩ := ih more.length (by omega) more rfl
      refine ⟨g :: groups, rest, ?_, ended⟩
      rw [joined, List.flatMap_cons, List.append_assoc, whole]
      rfl
    · exact ⟨[], arguments, rfl, .inr fails⟩

theorem arguments_injective {g g' : Group} (h : g.arguments = g'.arguments) : g = g' := by
  obtain ⟨text, tail⟩ := List.cons.inj h
  have option : g.option = g'.option := text_injective text
  have value : g.value = g'.value := (List.cons.inj tail).1
  cases g with
  | driver path =>
    cases g' with
    | driver path' => exact congrArg Group.driver value
    | specs path' => cases option
    | service m' => cases option
  | specs path =>
    cases g' with
    | driver path' => cases option
    | specs path' => exact congrArg Group.specs value
    | service m' => cases option
  | service m =>
    cases g' with
    | driver path' => cases option
    | specs path' => cases option
    | service m' =>
      have same : mapping? m.text = mapping? m'.text := congrArg mapping? value
      rw [mapping?_text, mapping?_text] at same
      cases m
      cases m'
      cases same
      rfl

theorem Fails.no_group (fails : Fails rest e) (g : Group) (more : List String) :
    rest ≠ g.arguments ++ more := by
  intro same
  cases fails with
  | missingValue option => cases (List.cons.inj same).2
  | unknown other others => exact other g.option (List.cons.inj same).1
  | badMapping bad others =>
    obtain ⟨text, tail⟩ := List.cons.inj same
    have option : Name.service = g.option := text_injective text
    have value := (List.cons.inj tail).1
    cases g with
    | driver path => cases option
    | specs path => cases option
    | service m => exact bad m value

/-- Where no group follows, no more groups can be taken from the front. -/
theorem Fails.longest (fails : Fails rest e) {others : List Group} {more : List String}
    (h : joined groups ++ rest = joined others ++ more) : others <+: groups := by
  induction others generalizing groups with
  | nil => exact List.nil_prefix
  | cons g others ih =>
    rw [joined, joined, List.flatMap_cons, List.append_assoc] at h
    cases groups with
    | nil => exact absurd h (fails.no_group g _)
    | cons g' groups =>
      rw [List.flatMap_cons, List.append_assoc] at h
      obtain ⟨here, further⟩ := List.append_inj h (by simp only [length_arguments])
      obtain rfl := arguments_injective here
      exact List.cons_prefix_cons.mpr ⟨rfl, ih further⟩

theorem last_cons (gives : Group → Option String) (g : Group) (groups : List Group) :
    last gives (g :: groups) = (last gives groups).or (gives g) := by
  unfold last
  cases here : gives g with
  | none => rw [List.filterMap_cons_none here, Option.or_none]
  | some text =>
    rw [List.filterMap_cons_some here, List.getLast?_cons]
    cases (groups.filterMap gives).getLast? <;> rfl

theorem says_changed (start : ReplayChoice) (groups : List Group) :
    Says start groups (groups.foldl Group.changed start) := by
  induction groups generalizing start with
  | nil => exact ⟨rfl, rfl, fun _ => rfl⟩
  | cons g groups ih =>
    obtain ⟨driver, specs, instances⟩ := ih (g.changed start)
    rw [List.foldl_cons]
    constructor
    · rw [driver, last_cons]
      cases g <;> cases last Group.driver? groups <;> rfl
    · rw [specs, last_cons]
      cases g <;> cases last Group.specs? groups <;> rfl
    · intro name
      rw [instances, last_cons, Option.or_assoc]
      congr 1
      cases g with
      | driver path => rfl
      | specs path => rfl
      | service m =>
        show (start.instances.insert m.name m.service).get? name = _
        rw [Index.get?_insert, Group.instance?]
        by_cases same : m.name = name
        · rw [if_pos same, if_pos same.symm]
          rfl
        · rw [if_neg same, if_neg (Ne.symm same)]
          rfl

/-- Arguments are accepted exactly when they are groups, and then the last group of a name counts.
Otherwise they are refused for the reason why no group stands behind those at their front; there is
no way to take more groups from there. -/
theorem parse_grammar (arguments : List String) :
    ((∃ o, parse arguments = .ok o) ↔ ∃ groups, arguments = joined groups) ∧
    (∀ groups, ∃ o, parse (joined groups) = .ok o ∧ Says {} groups o ∧
      ∀ name, o.instances.get? name = last (Group.instance? name) groups) ∧
    ∀ e, parse arguments = .error e ↔ ∃ groups rest, arguments = joined groups ++ rest ∧
      Fails rest e ∧ ∀ others more, arguments = joined others ++ more → others <+: groups := by
  have accepted : ∀ groups, parse (joined groups) = .ok (groups.foldl Group.changed {}) := by
    intro groups
    have parsed := parseFrom_joined {} groups []
    rw [List.append_nil] at parsed
    exact parsed
  have refused : ∀ {groups rest e}, Fails rest e → parse (joined groups ++ rest) = .error e := by
    intro groups rest e fails
    rw [parse, parseFrom_joined]
    exact parseFrom_fails fails _
  obtain ⟨groups, rest, whole, ended⟩ := exists_joined arguments
  refine ⟨?_, ?_, ?_⟩
  · constructor
    · rintro ⟨o, ok⟩
      rcases ended with rfl | ⟨e, fails⟩
      · exact ⟨groups, whole.trans (List.append_nil _)⟩
      · rw [whole, refused fails] at ok
        cases ok
    · rintro ⟨groups, rfl⟩
      exact ⟨_, accepted groups⟩
  · intro groups
    have changed := says_changed {} groups
    refine ⟨_, accepted groups, changed, ?_⟩
    intro name
    rw [changed.instances name]
    exact Option.or_none
  · intro e
    constructor
    · intro error
      rcases ended with rfl | ⟨e', fails⟩
      · rw [whole, List.append_nil, accepted] at error
        cases error
      · have same : parse arguments = .error e' := whole ▸ refused fails
        rw [error] at same
        cases same
        refine ⟨groups, rest, whole, fails, ?_⟩
        intro others more also
        exact fails.longest (whole ▸ also)
    · rintro ⟨groups, rest, rfl, fails, -⟩
      exact refused fails

/-- A value may look like an option, and a mapping ends its name at the first equals sign. -/
example : (parse ["--driver", "--service", "--service", "n=a=b"]).toOption.map
    (fun o => (o.driver, o.instances.get? "n")) =
      some (Files.Path.ofString "--service", some "a=b") := by
  decide +kernel

end HalBench.Tool.ReplayChoice
