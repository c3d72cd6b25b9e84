import HalBench.Number.Decimal
import HalBench.Proofs.Number.Digits

/-! The decimal text of a number is made of visible characters, and no colon is among them when the
number is written to one decimal place. -/

namespace HalBench.Decimal

def Visible (c : Char) : Prop := 32 < c.toNat ∧ c.toNat < 128

instance (c : Char) : Decidable (Visible c) :=
  inferInstanceAs (Decidable (32 < c.toNat ∧ c.toNat < 128))

theorem visible_of_all {text : List Char} (h : text.all (fun c => decide (Visible c)) = true) :
    ∀ c ∈ text, Visible c := fun c hc => of_decide_eq_true (List.all_eq_true.mp h c hc)

theorem visible_digit {c : Char} (h : c.isDigit = true) : Visible c := by
  have bounds := Digits.isDigit_bounds h
  exact ⟨by omega, by omega⟩

theorem visible_toDigits {n : Nat} : ∀ c ∈ Nat.toDigits 10 n, Visible c := fun _ hc =>
  visible_digit (Nat.isDigit_of_mem_toDigits (by decide) (by decide) hc)

theorem visible_shortest {f : Format} {m : Nat} {e : Int} :
    ∀ c ∈ (shortest f m e).1, Visible c := by
  intro c hc
  rw [shortest, List.mem_reverse] at hc
  exact visible_toDigits c (List.mem_reverse.mp ((List.dropWhile_sublist _).subset hc))

theorem visible_signText (negative : Bool) : ∀ c ∈ signText negative, Visible c := by
  cases negative <;> simp [signText, Visible]

theorem visible_exponentText (k : Int) : ∀ c ∈ exponentText k, Visible c := by
  intro c hc
  rw [exponentText, List.mem_cons, List.mem_cons] at hc
  rcases hc with rfl | rfl | digit
  · decide
  · split <;> decide
  · exact visible_toDigits c digit

theorem visible_replicate_zero (n : Nat) : ∀ c ∈ List.replicate n '0', Visible c := by
  intro c hc
  rw [List.eq_of_mem_replicate hc]
  decide

theorem visible_layout (bounds : Positional) {digits : List Char} (k : Int)
    (visible : ∀ c ∈ digits, Visible c) : ∀ c ∈ layout bounds digits k, Visible c := by
  have taken (n : Nat) : ∀ c ∈ digits.take n, Visible c := fun c hc =>
    visible c (List.mem_of_mem_take hc)
  have dropped (n : Nat) : ∀ c ∈ digits.drop n, Visible c := fun c hc =>
    visible c (List.mem_of_mem_drop hc)
  have point : Visible '.' := by decide
  have zero : Visible '0' := by decide
  have nothing : ∀ c ∈ ([] : List Char), Visible c := nofun
  unfold layout
  simp only
  split
  · simp only [List.forall_mem_append, List.forall_mem_cons]
    exact ⟨⟨visible, visible_replicate_zero _⟩, point, zero, nothing⟩
  · split
    · simp only [List.forall_mem_append, List.forall_mem_cons]
      exact ⟨taken _, point, dropped _⟩
    · split
      · simp only [List.forall_mem_append, List.forall_mem_cons]
        exact ⟨⟨⟨zero, point, nothing⟩, visible_replicate_zero _⟩, visible⟩
      · simp only [List.forall_mem_append]
        refine ⟨⟨taken 1, ?_⟩, visible_exponentText _⟩
        split
        · exact nothing
        · exact List.forall_mem_cons.mpr ⟨point, dropped 1⟩

theorem visible_plain {f : Format} {x : Binary} {text : List Char} (h : plain f x = some text) :
    ∀ c ∈ text, Visible c := by
  cases x with
  | finite s m e =>
    rw [plain] at h
    split at h
    · cases h
      have zero : ∀ c ∈ ['0', '.', '0'], Visible c := visible_of_all rfl
      exact List.forall_mem_append.mpr ⟨visible_signText s, zero⟩
    · cases h
      exact List.forall_mem_append.mpr ⟨visible_signText s, visible_layout _ _ visible_shortest⟩
  | infinite s => cases h
  | nan => cases h

theorem visible_oneDecimal (x : Binary) : ∀ c ∈ oneDecimal x, Visible c := by
  cases x with
  | finite s m e =>
    simp only [oneDecimal, List.forall_mem_append, List.forall_mem_cons]
    exact ⟨⟨visible_signText s, visible_toDigits⟩, by decide, visible_toDigits⟩
  | infinite s =>
    rw [oneDecimal, List.forall_mem_append]
    exact ⟨visible_signText s, visible_of_all rfl⟩
  | nan => exact visible_of_all rfl

theorem colon_not_mem_oneDecimal (x : Binary) : ':' ∉ oneDecimal x := by
  have digits (n : Nat) : ':' ∉ Nat.toDigits 10 n := Digits.not_mem_toDigits (by decide) n
  have sign (negative : Bool) : ':' ∉ signText negative := by
    cases negative <;> decide
  cases x with
  | finite s m e => simp [oneDecimal, sign, digits]
  | infinite s => simp [oneDecimal, sign]
  | nan => decide

theorem oneDecimal_ne_nil (x : Binary) : oneDecimal x ≠ [] := by
  cases x with
  | finite s m e => simp [oneDecimal]
  | infinite s => simp [oneDecimal]
  | nan => decide

end HalBench.Decimal
