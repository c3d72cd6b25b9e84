import HalBench.Text.Utf8

/-! Decoding undoes encoding: the bytes of a text are cut into its characters again, whatever
follows them. Texts and their encodings have the same order. -/

namespace HalBench.Utf8

theorem toNat_ofNat {n : Nat} (h : n < 256) : (UInt8.ofNat n).toNat = n := by
  rw [UInt8.toNat_ofNat', Nat.mod_eq_of_lt (by omega)]

theorem isTrail_ofNat {n : Nat} (low : 128 ≤ n) (high : n < 192) :
    isTrail (UInt8.ofNat n) = true := by
  simp only [isTrail, UInt8.le_iff_toNat_le, UInt8.lt_iff_toNat_lt, Bool.and_eq_true,
    decide_eq_true_eq, toNat_ofNat (Nat.lt_trans high (by decide : 192 < 256))]
  exact ⟨low, high⟩

theorem allowsThree_ofNat {v : Nat} (low : 0x800 ≤ v) (high : v ≤ 0xffff)
    (valid : v < 0xd800 ∨ 0xdfff < v) :
    allowsThree (UInt8.ofNat (v / 4096 % 16 + 224)) (UInt8.ofNat (v / 64 % 64 + 128)) = true := by
  unfold allowsThree isTrail
  simp only [← UInt8.toNat_inj, UInt8.le_iff_toNat_le, UInt8.lt_iff_toNat_lt]
  rw [toNat_ofNat (by omega), toNat_ofNat (by omega)]
  simp only [UInt8.reduceToNat]
  split
  · simp; omega
  · split
    · simp; omega
    · simp; omega

theorem allowsFour_ofNat {v : Nat} (low : 0x10000 ≤ v) (high : v < 0x110000) :
    allowsFour (UInt8.ofNat (v / 262144 % 8 + 240)) (UInt8.ofNat (v / 4096 % 64 + 128)) = true := by
  unfold allowsFour isTrail
  simp only [← UInt8.toNat_inj, UInt8.le_iff_toNat_le, UInt8.lt_iff_toNat_lt]
  rw [toNat_ofNat (by omega), toNat_ofNat (by omega)]
  simp only [UInt8.reduceToNat]
  split
  · simp; omega
  · split
    · simp; omega
    · simp; omega

theorem encodeChar_ascii {c : Char} (h : c.toNat < 128) :
    String.utf8EncodeChar c = [UInt8.ofNat c.toNat] := by
  have low : c.val.toNat ≤ 127 := Nat.le_of_lt_succ h
  simp only [String.utf8EncodeChar, low, if_true]
  rfl

theorem le_of_mem_encodeChar {c : Char} (wide : 128 ≤ c.toNat) {b : UInt8}
    (h : b ∈ String.utf8EncodeChar c) : 128 ≤ b.toNat := by
  have notOne : ¬ c.val.toNat ≤ 127 := Nat.not_le.mpr wide
  simp only [String.utf8EncodeChar, notOne, if_false] at h
  split at h
  · simp only [List.mem_cons, List.not_mem_nil, or_false] at h
    rcases h with rfl | rfl <;> rw [toNat_ofNat (by omega)] <;> omega
  · split at h
    · simp only [List.mem_cons, List.not_mem_nil, or_false] at h
      rcases h with rfl | rfl | rfl <;> rw [toNat_ofNat (by omega)] <;> omega
    · simp only [List.mem_cons, List.not_mem_nil, or_false] at h
      rcases h with rfl | rfl | rfl | rfl <;> rw [toNat_ofNat (by omega)] <;> omega

theorem mem_of_mem_encode {text : List Char} {c : Char} (ascii : c.toNat < 128)
    (h : UInt8.ofNat c.toNat ∈ encode text) : c ∈ text := by
  obtain ⟨d, member, here⟩ := List.mem_flatMap.mp h
  by_cases low : d.toNat < 128
  · rw [encodeChar_ascii low, List.mem_singleton] at here
    have same := congrArg UInt8.toNat here
    rw [toNat_ofNat (by omega), toNat_ofNat (by omega)] at same
    rwa [Char.toNat_inj.mp same]
  · have high := le_of_mem_encodeChar (Nat.le_of_not_lt low) here
    rw [toNat_ofNat (by omega)] at high
    omega

theorem pieces_one {v : Nat} (h : v ≤ 0x7f) (r : Bytes) :
    pieces (UInt8.ofNat v :: r) = .char (Char.ofNat v) :: pieces r := by
  have hv := toNat_ofNat (n := v) (by omega)
  have low : UInt8.ofNat v < 0x80 := by
    rw [UInt8.lt_iff_toNat_lt, hv]
    exact Nat.lt_succ_of_le h
  rw [pieces.eq_def]
  simp only [low, if_true, hv]

theorem pieces_two {v : Nat} (low : 0x80 ≤ v) (high : v ≤ 0x7ff) (r : Bytes) :
    pieces (UInt8.ofNat (v / 64 % 32 + 192) :: UInt8.ofNat (v % 64 + 128) :: r) =
      .char (Char.ofNat v) :: pieces r := by
  have ha := toNat_ofNat (n := v / 64 % 32 + 192) (by omega)
  have hb := toNat_ofNat (n := v % 64 + 128) (by omega)
  have trail := isTrail_ofNat (n := v % 64 + 128) (by omega) (by omega)
  have value : (v / 64 % 32 + 192) % 32 * 64 + (v % 64 + 128) % 64 = v := by omega
  rw [pieces.eq_def]
  simp only [UInt8.le_iff_toNat_le, UInt8.lt_iff_toNat_lt, ha, UInt8.reduceToNat]
  rw [if_neg (by omega), if_pos (by simp; omega)]
  simp only [trail, if_true, payload, hb, value]

theorem pieces_three {v : Nat} (low : 0x800 ≤ v) (high : v ≤ 0xffff)
    (valid : v < 0xd800 ∨ 0xdfff < v) (r : Bytes) :
    pieces (UInt8.ofNat (v / 4096 % 16 + 224) :: UInt8.ofNat (v / 64 % 64 + 128) ::
      UInt8.ofNat (v % 64 + 128) :: r) = .char (Char.ofNat v) :: pieces r := by
  have ha := toNat_ofNat (n := v / 4096 % 16 + 224) (by omega)
  have hb := toNat_ofNat (n := v / 64 % 64 + 128) (by omega)
  have hc := toNat_ofNat (n := v % 64 + 128) (by omega)
  have allowed := allowsThree_ofNat low high valid
  have trail := isTrail_ofNat (n := v % 64 + 128) (by omega) (by omega)
  have value : ((v / 4096 % 16 + 224) % 16 * 64 + (v / 64 % 64 + 128) % 64) * 64 +
      (v % 64 + 128) % 64 = v := by omega
  rw [pieces.eq_def]
  simp only [UInt8.le_iff_toNat_le, UInt8.lt_iff_toNat_lt, ha, UInt8.reduceToNat]
  rw [if_neg (by omega), if_neg (by simp), if_pos (by simp; omega)]
  simp only [allowed, trail, if_true, payload, hb, hc, value]

theorem pieces_four {v : Nat} (low : 0x10000 ≤ v) (high : v < 0x110000) (r : Bytes) :
    pieces (UInt8.ofNat (v / 262144 % 8 + 240) :: UInt8.ofNat (v / 4096 % 64 + 128) ::
      UInt8.ofNat (v / 64 % 64 + 128) :: UInt8.ofNat (v % 64 + 128) :: r) =
      .char (Char.ofNat v) :: pieces r := by
  have ha := toNat_ofNat (n := v / 262144 % 8 + 240) (by omega)
  have hb := toNat_ofNat (n := v / 4096 % 64 + 128) (by omega)
  have hc := toNat_ofNat (n := v / 64 % 64 + 128) (by omega)
  have hd := toNat_ofNat (n := v % 64 + 128) (by omega)
  have allowed := allowsFour_ofNat low high
  have trail := isTrail_ofNat (n := v / 64 % 64 + 128) (by omega) (by omega)
  have last := isTrail_ofNat (n := v % 64 + 128) (by omega) (by omega)
  have value : (((v / 262144 % 8 + 240) % 8 * 64 + (v / 4096 % 64 + 128) % 64) * 64 +
      (v / 64 % 64 + 128) % 64) * 64 + (v % 64 + 128) % 64 = v := by omega
  rw [pieces.eq_def]
  simp only [UInt8.le_iff_toNat_le, UInt8.lt_iff_toNat_lt, ha, UInt8.reduceToNat]
  rw [if_neg (by omega), if_neg (by simp), if_neg (by simp), if_pos (by simp; omega)]
  simp only [allowed, trail, last, if_true, payload, hb, hc, hd, value]

theorem pieces_encodeChar (c : Char) (r : Bytes) :
    pieces (String.utf8EncodeChar c ++ r) = .char c :: pieces r := by
  have valid : c.val.toNat < 0xd800 ∨ 0xdfff < c.val.toNat ∧ c.val.toNat < 0x110000 := c.valid
  have value : Char.ofNat c.val.toNat = c := Char.ofNat_toNat c
  simp only [String.utf8EncodeChar]
  conv => rhs; rw [← value]
  split
  · rename_i one
    exact pieces_one one r
  · split
    · rename_i notOne two
      exact pieces_two (by omega) two r
    · split
      · rename_i notOne notTwo three
        exact pieces_three (by omega) three (by omega) r
      · exact pieces_four (by omega) (by omega) r

theorem pieces_encode (text : List Char) (r : Bytes) :
    pieces (encode text ++ r) = text.map Piece.char ++ pieces r := by
  induction text with
  | nil => rfl
  | cons c text ih =>
    rw [encode_cons, List.append_assoc, pieces_encodeChar, ih]
    rfl

theorem decode?_encode (text : List Char) : decode? (encode text) = some text := by
  have cut := pieces_encode text []
  rw [List.append_nil] at cut
  rw [decode?, cut]
  clear cut
  induction text with
  | nil => rfl
  | cons c text ih =>
    rw [List.map_cons, List.cons_append, List.mapM_cons, ih]
    rfl

theorem string?_bytes (s : String) : string? (bytes s) = some s := by
  rw [string?, bytes, decode?_encode, Option.map_some, String.ofList_toList]

theorem decodeLossy_encode (text : List Char) : decodeLossy (encode text) = text := by
  have cut : pieces (encode text) = text.map Piece.char := by
    rw [← List.append_nil (encode text), pieces_encode]
    exact List.append_nil _
  rw [decodeLossy, cut, List.map_map]
  exact List.map_id text

theorem stringLossy_bytes (s : String) : stringLossy (bytes s) = s := by
  rw [stringLossy, bytes, decodeLossy_encode, String.ofList_toList]

theorem bytes_injective {s t : String} (h : bytes s = bytes t) : s = t := by
  rw [← Option.some.injEq, ← string?_bytes, ← string?_bytes, h]

/-! ### The order of encodings -/

theorem cons_ofNat_lt {m n : Nat} (hm : m < 256) (hn : n < 256) {r s : Bytes} :
    UInt8.ofNat m :: r < UInt8.ofNat n :: s ↔ m < n ∨ m = n ∧ r < s := by
  rw [List.cons_lt_cons_iff, UInt8.lt_iff_toNat_lt, ← UInt8.toNat_inj, toNat_ofNat hm,
    toNat_ofNat hn]

theorem digits_lt {m n : Nat} (h : m < n) (top : n < 8 * 262144) :
    m / 262144 % 8 < n / 262144 % 8 ∨ m / 262144 % 8 = n / 262144 % 8 ∧
      (m / 4096 % 64 < n / 4096 % 64 ∨ m / 4096 % 64 = n / 4096 % 64 ∧
        (m / 64 % 64 < n / 64 % 64 ∨ m / 64 % 64 = n / 64 % 64 ∧ m % 64 < n % 64)) := by
  have one {m n : Nat} (h : m < n) : m / 64 < n / 64 ∨ m / 64 = n / 64 ∧ m % 64 < n % 64 := by
    omega
  have digits (k : Nat) : k / 4096 = k / 64 / 64 ∧ k / 262144 = k / 64 / 64 / 64 := by
    simp only [Nat.div_div_eq_div_mul, and_self]
  have first {k : Nat} (h : k < 8 * 262144) : k / 262144 % 8 = k / 262144 :=
    Nat.mod_eq_of_lt (Nat.div_lt_of_lt_mul (Nat.mul_comm .. ▸ h))
  rw [first top, first (Nat.lt_trans h top), (digits m).1, (digits m).2, (digits n).1, (digits n).2]
  rcases one h with more | ⟨same, less⟩
  · rcases one more with more | ⟨same, less⟩
    · rcases one more with more | ⟨same, less⟩
      · exact .inl more
      · exact .inr ⟨same, .inl less⟩
    · exact .inr ⟨congrArg (· / 64) same, .inr ⟨congrArg (· % 64) same, .inl less⟩⟩
  · exact .inr ⟨congrArg (· / 64 / 64) same, .inr ⟨congrArg (· / 64 % 64) same,
      .inr ⟨congrArg (· % 64) same, less⟩⟩⟩

theorem encodeChar_append_lt {c d : Char} (h : c < d) (r s : Bytes) :
    String.utf8EncodeChar c ++ r < String.utf8EncodeChar d ++ s := by
  have below : c.val.toNat < d.val.toNat := h
  have top : d.val.toNat < 0x110000 := by
    rcases d.valid with low | ⟨-, high⟩
    · exact Nat.lt_trans low (by decide)
    · exact high
  have digits := digits_lt below (Nat.lt_trans top (by decide))
  simp only [String.utf8EncodeChar]
  -- A longer encoding has the larger first byte; of two of one length the digits decide.
  repeat' split
  all_goals
    simp (disch := omega) only [List.cons_append, List.nil_append, cons_ofNat_lt]
    omega

theorem encodeChar_ne_nil (c : Char) : String.utf8EncodeChar c ≠ [] := by
  rw [← List.length_pos_iff, String.length_utf8EncodeChar]
  exact c.utf8Size_pos

theorem encode_lt {s t : List Char} (h : s < t) : encode s < encode t := by
  induction h with
  | @nil d t =>
    rw [encode_nil, encode_cons]
    obtain ⟨a, r, eq⟩ := List.exists_cons_of_ne_nil (encodeChar_ne_nil d)
    rw [eq, List.cons_append]
    exact List.nil_lt_cons a _
  | rel less => exact encodeChar_append_lt less _ _
  | cons _ ih => exact List.append_left_lt ih

theorem bytes_lt {s t : String} (h : s < t) : bytes s < bytes t := encode_lt h

end HalBench.Utf8
