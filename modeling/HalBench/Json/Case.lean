/-!
# Cases of nested sums

Names for the injections into a sum that is nested to the right.
-/

namespace HalBench.Json.Case

variable {a b c d e f g h i j k : Type}

/-- The first of several cases. -/
@[match_pattern] abbrev first (x : a) : a ⊕ b := .inl x

@[match_pattern] abbrev second (x : b) : a ⊕ b ⊕ c := .inr (.inl x)

@[match_pattern] abbrev third (x : c) : a ⊕ b ⊕ c ⊕ d := .inr (.inr (.inl x))

@[match_pattern] abbrev fourth (x : d) : a ⊕ b ⊕ c ⊕ d ⊕ e := .inr (.inr (.inr (.inl x)))

@[match_pattern] abbrev fifth (x : e) : a ⊕ b ⊕ c ⊕ d ⊕ e ⊕ f :=
  .inr (.inr (.inr (.inr (.inl x))))

@[match_pattern] abbrev sixth (x : f) : a ⊕ b ⊕ c ⊕ d ⊕ e ⊕ f ⊕ g :=
  .inr (.inr (.inr (.inr (.inr (.inl x)))))

@[match_pattern] abbrev seventh (x : g) : a ⊕ b ⊕ c ⊕ d ⊕ e ⊕ f ⊕ g ⊕ h :=
  .inr (.inr (.inr (.inr (.inr (.inr (.inl x))))))

@[match_pattern] abbrev eighth (x : h) : a ⊕ b ⊕ c ⊕ d ⊕ e ⊕ f ⊕ g ⊕ h ⊕ i :=
  .inr (.inr (.inr (.inr (.inr (.inr (.inr (.inl x)))))))

@[match_pattern] abbrev ninth (x : i) : a ⊕ b ⊕ c ⊕ d ⊕ e ⊕ f ⊕ g ⊕ h ⊕ i ⊕ j :=
  .inr (.inr (.inr (.inr (.inr (.inr (.inr (.inr (.inl x))))))))

@[match_pattern] abbrev tenth (x : j) : a ⊕ b ⊕ c ⊕ d ⊕ e ⊕ f ⊕ g ⊕ h ⊕ i ⊕ j ⊕ k :=
  .inr (.inr (.inr (.inr (.inr (.inr (.inr (.inr (.inr (.inl x)))))))))

end HalBench.Json.Case
