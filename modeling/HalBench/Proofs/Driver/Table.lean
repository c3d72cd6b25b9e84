import HalBench.Driver.Table

/-! The drivers of a table, the numbers of its keys and the names of its services fit together:
every key has the number at which its driver stands, and every service name is bound to the number
of a driver. Registering, binding and calling keep it so. -/

namespace HalBench.Driver.Table

open Service

variable {δ ω : Type} {t : Table δ} {keys : List Key} {key : Key} {category : Category} {driver : δ}
  {service : String} {id : Id} {e : Entry δ}

theorem toNat_ofNat_size (room : t.size < UInt32.size) : (UInt32.ofNat t.size).toNat = t.size :=
  UInt32.toNat_ofNat_of_lt' room

theorem entry?_eq_getElem? : t.entry? id = t.entries[id.toNat]? := rfl

theorem resolve_register (key' : Key) :
    (t.register key category driver).2.resolve key' =
      if key' = key then some (t.register key category driver).1 else t.resolve key' := by
  unfold register
  cases known : t.resolve key with
  | some id =>
    by_cases same : key' = key
    · rw [if_pos same, same]
      exact known
    · rw [if_neg same]
      rfl
  | none => exact Entries.lookup_cons ..

theorem resolve_register_self :
    (t.register key category driver).2.resolve key =
      some (t.register key category driver).1 :=
  (resolve_register key).trans (if_pos rfl)

theorem lookup_register : (t.register key category driver).2.lookup service = t.lookup service := by
  unfold register
  cases t.resolve key <;> rfl

theorem lookup_bind (service' : String) :
    (t.bind service id).2.lookup service' =
      if service' = service ∧ (t.bind service id).1 = true then some id else t.lookup service' := by
  unfold bind
  by_cases known : (t.entry? id).isSome
  · simp only [if_pos known, and_true]
    exact Index.get?_insert ..
  · simp only [if_neg known, Bool.false_eq_true, and_false, if_false]

theorem entries_bind : (t.bind service id).2.entries = t.entries := by
  unfold bind
  split <;> rfl

theorem numbers_bind : (t.bind service id).2.numbers = t.numbers := by
  unfold bind
  split <;> rfl

theorem entry?_bind : Table.entry? (t.bind service id).2 = t.entry? := by
  funext id'
  rw [entry?_eq_getElem?, entries_bind, entry?_eq_getElem?]

theorem resolve_bind : (t.bind service id).2.resolve = t.resolve := by
  funext key
  rw [resolve, numbers_bind, resolve]

theorem registerNamed_eq :
    t.registerNamed service key category driver =
      ((t.register key category driver).1,
        ((t.register key category driver).2.bind service (t.register key category driver).1).2) :=
  rfl

theorem entry?_eq_none : t.entry? id = none ↔ t.size ≤ id.toNat := List.getElem?_eq_none_iff

theorem bind_unknown (unknown : t.size ≤ id.toNat) : t.bind service id = (false, t) := by
  rw [bind, entry?_eq_none.mpr unknown]
  rfl

theorem bind_known (service : String) (known : id.toNat < t.size) : (t.bind service id).1 = true := by
  have found : t.entry? id ≠ none := fun none => absurd (entry?_eq_none.mp none) (by omega)
  rw [bind, if_pos (Option.isSome_iff_ne_none.mpr found)]

theorem key?_eq_getElem? : t.key? id = (t.entries.map (·.key))[id.toNat]? :=
  List.getElem?_map.symm

theorem entry?_setEntry (id' : Id) :
    Table.entry? (t.setEntry id e) id' =
      if id = id' then (t.entry? id).map fun _ => e else t.entry? id' := by
  rw [entry?_eq_getElem?, setEntry, List.getElem?_set]
  by_cases same : id = id'
  · subst same
    rw [if_pos rfl, if_pos rfl, entry?_eq_getElem?]
    cases at_ : t.entries[id.toNat]? with
    | none => exact if_neg (Nat.not_lt.mpr (List.getElem?_eq_none_iff.mp at_))
    | some e' => exact if_pos (List.getElem?_eq_some_iff.mp at_).1
  · rw [if_neg same, if_neg fun e => same (UInt32.toNat_inj.mp e)]
    rfl

theorem entry?_setEntry_self (here : t.entry? id = some e) {e' : Entry δ} :
    Table.entry? (t.setEntry id e') id = some e' := by
  rw [entry?_setEntry, if_pos rfl, here]
  rfl

theorem resolve_setEntry : (t.setEntry id e).resolve key = t.resolve key := rfl

theorem keys_setEntry (here : t.entry? id = some e) :
    (t.setEntry id { e with driver }).entries.map (·.key) = t.entries.map (·.key) := by
  obtain ⟨inside, rfl⟩ := List.getElem?_eq_some_iff.mp here
  refine List.ext_getElem? fun i => ?_
  rw [setEntry, List.getElem?_map, List.getElem?_map, List.getElem?_set]
  split
  · rename_i same
    subst same
    rw [List.getElem?_eq_getElem inside]
    rfl
  · rfl

theorem register_known (found : t.resolve key = some id) :
    (t.register key category driver).1 = id := by
  rw [register, found]

theorem register_new (new : t.resolve key = none) :
    (t.register key category driver).1 = UInt32.ofNat t.size := by
  rw [register, new]

/-- A key that is registered for the first time is put after the others. -/
theorem entries_register_new (new : t.resolve key = none) :
    (t.register key category driver).2.entries = t.entries ++ [⟨key, category, driver⟩] := by
  rw [register, new]

section Firsts

theorem eraseDups_concat {α : Type} [DecidableEq α] (l : List α) (a : α) :
    (l ++ [a]).eraseDups = if a ∈ l.eraseDups then l.eraseDups else l.eraseDups ++ [a] := by
  rw [List.eraseDups_append]
  by_cases old : a ∈ l <;> simp [List.removeAll, List.eraseDups_cons, old]

variable {α β : Type} [DecidableEq β] (f : α → Option β)

theorem eraseDups_filterMap_concat (l : List α) (a : α) :
    ((l ++ [a]).filterMap f).eraseDups =
      match f a with
      | some b =>
        if b ∈ (l.filterMap f).eraseDups then (l.filterMap f).eraseDups
        else (l.filterMap f).eraseDups ++ [b]
      | none => (l.filterMap f).eraseDups := by
  rw [List.filterMap_append]
  cases found : f a with
  | none => simp [found]
  | some b => simp [found, eraseDups_concat]

theorem length_eraseDups_filterMap_append (l r : List α) :
    (l.filterMap f).eraseDups.length ≤ ((l ++ r).filterMap f).eraseDups.length := by
  rw [List.filterMap_append, List.eraseDups_append, List.length_append]
  exact Nat.le_add_right ..

end Firsts

/-- A table has these keys in the order of their numbers, and finds the numbers of the keys; the
service names are bound to some of the numbers. -/
structure Numbered (t : Table δ) (keys : List Key) : Prop where
  keys_eq : t.entries.map (·.key) = keys
  fits : keys.length ≤ UInt32.size
  resolve_iff : ∀ key id, t.resolve key = some id ↔ keys[id.toNat]? = some key
  bound : ∀ service id, t.lookup service = some id → id.toNat < keys.length

theorem numbered_empty : Numbered ({} : Table δ) [] where
  keys_eq := rfl
  fits := Nat.zero_le _
  resolve_iff _ _ := by simp [resolve]
  bound _ _ bound := nomatch bound

namespace Numbered

theorem size_eq (h : Numbered t keys) : t.size = keys.length := by
  rw [← h.keys_eq, List.length_map, size]

theorem key?_eq (h : Numbered t keys) : t.key? id = keys[id.toNat]? := by
  rw [key?_eq_getElem?, h.keys_eq]

theorem resolve_eq_key? (h : Numbered t keys) : t.resolve key = some id ↔ t.key? id = some key := by
  rw [h.key?_eq, h.resolve_iff]

theorem resolve_isSome (h : Numbered t keys) : (t.resolve key).isSome ↔ key ∈ keys := by
  rw [Option.isSome_iff_exists]
  constructor
  · rintro ⟨id, found⟩
    exact List.mem_of_getElem? ((h.resolve_iff key id).mp found)
  · intro member
    obtain ⟨i, inside, at_⟩ := List.mem_iff_getElem.mp member
    have small : (UInt32.ofNat i).toNat = i :=
      UInt32.toNat_ofNat_of_lt' (Nat.lt_of_lt_of_le inside h.fits)
    refine ⟨UInt32.ofNat i, (h.resolve_iff key _).mpr ?_⟩
    rw [small, List.getElem?_eq_getElem inside, at_]

theorem resolve_eq_none (h : Numbered t keys) : t.resolve key = none ↔ key ∉ keys := by
  rw [← h.resolve_isSome, Option.not_isSome_iff_eq_none]

theorem lt_size (h : Numbered t keys) (found : t.resolve key = some id) : id.toNat < t.size := by
  rw [h.size_eq]
  exact (List.getElem?_eq_some_iff.mp ((h.resolve_iff key id).mp found)).1

theorem room (h : Numbered t keys)
    (fits : (if key ∈ keys then keys else keys ++ [key]).length ≤ UInt32.size) :
    key ∈ keys ∨ t.size < UInt32.size := by
  rw [h.size_eq]
  split at fits
  · rename_i old
    exact .inl old
  · rw [List.length_append] at fits
    exact .inr fits

theorem entry?_register (h : Numbered t keys) (room : key ∈ keys ∨ t.size < UInt32.size) (id : Id) :
    Table.entry? (t.register key category driver).2 id =
      if id = (t.register key category driver).1 then some ⟨key, category, driver⟩
      else t.entry? id := by
  unfold register
  cases known : t.resolve key with
  | some id' =>
    have own : t.key? id' = some key := h.resolve_eq_key?.mp known
    obtain ⟨e, here, rfl⟩ := Option.map_eq_some_iff.mp own
    simp only [entry?_eq_getElem?, List.getElem?_modify]
    by_cases same : id = id'
    · subst same
      have at_ : t.entries[id.toNat]? = some e := here
      simp [at_]
    · have other : id'.toNat ≠ id.toNat := fun e => same (UInt32.toNat_inj.mp e).symm
      simp [same, other]
  | none =>
    have new : t.size < UInt32.size := room.resolve_left (h.resolve_eq_none.mp known)
    have last : id = UInt32.ofNat t.size ↔ id.toNat = t.size := by
      rw [← UInt32.toNat_inj, toNat_ofNat_size new]
    simp only [entry?_eq_getElem?, List.getElem?_append, last]
    by_cases before : id.toNat < t.entries.length
    · rw [if_pos before, if_neg (show id.toNat ≠ t.size from Nat.ne_of_lt before)]
    · rw [if_neg before, List.getElem?_eq_none (Nat.not_lt.mp before)]
      split
      · rename_i same
        rw [same, size, Nat.sub_self]
        rfl
      · rename_i other
        exact List.getElem?_eq_none (by
          rw [size] at other
          simp only [List.length_singleton]
          omega)

theorem keys_register (h : Numbered t keys) (category : Category) (driver : δ) :
    (t.register key category driver).2.entries.map (·.key) =
      if key ∈ keys then keys else keys ++ [key] := by
  unfold register
  cases known : t.resolve key with
  | some id =>
    have member : key ∈ keys := h.resolve_isSome.mp (Option.isSome_of_eq_some known)
    rw [if_pos member, ← h.keys_eq]
    refine List.ext_getElem? fun i => ?_
    simp only [List.getElem?_map, List.getElem?_modify]
    cases t.entries[i]? with
    | none => rfl
    | some e => by_cases same : id.toNat = i <;> simp [same]
  | none =>
    rw [if_neg (h.resolve_eq_none.mp known), ← h.keys_eq]
    exact List.map_append

theorem key?_register (h : Numbered t keys) (room : key ∈ keys ∨ t.size < UInt32.size) :
    (t.register key category driver).2.key? id =
      if id = (t.register key category driver).1 then some key else t.key? id := by
  rw [key?, h.entry?_register room]
  split <;> rfl

/-- The number of a key that is registered is not the number of another key. -/
theorem resolve_ne_register (h : Numbered t keys) (room : key ∈ keys ∨ t.size < UInt32.size)
    {key' : Key} (other : key' ≠ key) :
    t.resolve key' ≠ some (t.register key category driver).1 := by
  intro taken
  cases known : t.resolve key with
  | some id =>
    rw [register_known known, h.resolve_eq_key?, h.resolve_eq_key?.mp known] at taken
    exact other (Option.some.inj taken).symm
  | none =>
    have inside := h.lt_size taken
    rw [register_new known, toNat_ofNat_size (room.resolve_left (h.resolve_eq_none.mp known))]
      at inside
    exact Nat.lt_irrefl _ inside

theorem register (h : Numbered t keys) (room : key ∈ keys ∨ t.size < UInt32.size) :
    Numbered (t.register key category driver).2 (if key ∈ keys then keys else keys ++ [key]) where
  keys_eq := h.keys_register category driver
  fits := by
    rw [h.size_eq] at room
    have fits := h.fits
    split
    · exact fits
    · rename_i new
      have := room.resolve_left new
      rw [List.length_append, List.length_singleton]
      omega
  resolve_iff key' id := by
    rw [← h.keys_register category driver, ← key?_eq_getElem?,
      h.key?_register room, resolve_register]
    by_cases same : key' = key
    · subst same
      rw [if_pos rfl]
      by_cases own : id = (t.register key' category driver).1
      · rw [if_pos own, own]
        exact iff_of_true rfl rfl
      · rw [if_neg own, ← h.resolve_eq_key?]
        exact iff_of_false (fun e => own (Option.some.inj e).symm)
          fun found => own (register_known found).symm
    · rw [if_neg same]
      by_cases own : id = (t.register key category driver).1
      · rw [if_pos own, own]
        exact iff_of_false (h.resolve_ne_register room same)
          fun e => same (Option.some.inj e).symm
      · rw [if_neg own, h.resolve_eq_key?]
  bound service id found := by
    rw [lookup_register] at found
    have inside := h.bound service id found
    split
    · exact inside
    · rw [List.length_append]
      omega

theorem bind_register (h : Numbered t keys) (room : key ∈ keys ∨ t.size < UInt32.size) :
    ((t.register key category driver).2.bind service
      (t.register key category driver).1).1 = true :=
  bind_known service ((h.register room).lt_size resolve_register_self)

theorem bind (h : Numbered t keys) : Numbered (t.bind service id).2 keys where
  keys_eq := by rw [entries_bind, h.keys_eq]
  fits := h.fits
  resolve_iff := by rw [resolve_bind]; exact h.resolve_iff
  bound service' id' found := by
    rw [lookup_bind] at found
    split at found
    · rename_i here
      cases found
      refine Nat.not_le.mp fun outside => ?_
      rw [← h.size_eq] at outside
      rw [bind_unknown outside] at here
      exact Bool.false_ne_true here.2
    · exact h.bound service' id' found

end Numbered

/-! ### Calling drivers -/

section Calling

variable [Model δ ω] {call : Message} {w : ω}

theorem invoke_unknown (unknown : t.size ≤ id.toNat) :
    t.invoke id call w = (Service.Answer.failureWord, t, w) := by
  rw [invoke, entry?_eq_none.mpr unknown]

theorem invoke_known (here : t.entry? id = some e) :
    t.invoke id call w =
      (answerText (Model.call e.driver call w).1,
        t.setEntry id { e with driver := (Model.call e.driver call w).2.1 },
        (Model.call e.driver call w).2.2) := by
  rw [invoke, here]

theorem entry?_invoke (id' : Id) :
    Table.entry? (t.invoke id call w).2.1 id' =
      if id = id' then
        (t.entry? id').map fun e => { e with driver := (Model.call e.driver call w).2.1 }
      else t.entry? id' := by
  cases here : t.entry? id with
  | none =>
    rw [invoke_unknown (entry?_eq_none.mp here)]
    split
    · rename_i same
      rw [← same, here]
      rfl
    · rfl
  | some e =>
    rw [invoke_known here, entry?_setEntry]
    split
    · rename_i same
      rw [← same, here]
      rfl
    · rfl

/-- What does not change when drivers are called. -/
structure SameNumbers (t t' : Table δ) : Prop where
  keys : t'.entries.map (·.key) = t.entries.map (·.key)
  numbers : t'.numbers = t.numbers
  services : t'.services = t.services

theorem SameNumbers.refl : SameNumbers t t := ⟨rfl, rfl, rfl⟩

theorem SameNumbers.resolve_eq {t' : Table δ} (same : SameNumbers t t') (key : Key) :
    t'.resolve key = t.resolve key := by
  rw [resolve, same.numbers, resolve]

theorem SameNumbers.lookup_eq {t' : Table δ} (same : SameNumbers t t') (service : String) :
    t'.lookup service = t.lookup service := by
  rw [lookup, same.services, lookup]

theorem invoke_sameNumbers : SameNumbers t (t.invoke id call w).2.1 := by
  cases here : t.entry? id with
  | none => rw [invoke, here]; exact .refl
  | some e => rw [invoke_known here]; exact ⟨keys_setEntry here, rfl, rfl⟩

theorem functions_sameNumbers : SameNumbers t (t.functions id w).2.1 := by
  unfold functions
  cases here : t.entry? id with
  | none => exact .refl
  | some e => exact ⟨keys_setEntry here, rfl, rfl⟩

theorem Numbered.of_sameNumbers {t' : Table δ} (h : Numbered t keys) (same : SameNumbers t t') :
    Numbered t' keys where
  keys_eq := same.keys.trans h.keys_eq
  fits := h.fits
  resolve_iff key id := by rw [same.resolve_eq, h.resolve_iff]
  bound service id found := h.bound service id (same.lookup_eq service ▸ found)

end Calling

end HalBench.Driver.Table
