import HalBench.Proofs.Frame.Whole
import Mathlib.Data.List.Forall2

/-! How far receiving gets. Every frame takes its header and its payload and no other bytes, and a
header has two bytes at least, so an error is met after half as many frames as there are bytes. -/

namespace HalBench.Frame

variable {payload frame header : Bytes} {s t : Source}

/-- The header of a payload: its length, with leading zeros or without, and the byte that ends it. -/
inductive Heads (payload : Bytes) : Bytes → Prop
  | intro {written : Bytes} {terminator : UInt8} (short : written.length ≤ maxHeader)
      (denotes : lengthOf? written = .ok payload.length)
      (stop : isTerminator terminator = true) (room : Allocatable payload) :
      Heads payload (written ++ [terminator])

theorem Whole.heads (h : Whole payload frame) :
    ∃ header, Heads payload header ∧ frame = header ++ payload := by
  cases h with
  | @intro written terminator short denotes stop room =>
    exact ⟨written ++ [terminator], .intro short denotes stop room, by simp⟩

theorem Heads.long (h : Heads payload header) : 2 ≤ header.length := by
  cases h with
  | @intro written terminator short denotes stop room =>
    have nonempty := List.length_pos_iff.mpr (lengthOf?_ok denotes).1
    rw [List.length_append, List.length_singleton]
    omega

/-- The bytes of some frames, each a header and the payload behind it. -/
def framed (headers payloads : List Bytes) : Bytes := (List.zipWith (· ++ ·) headers payloads).flatten

theorem framed_cons (header payload : Bytes) (headers payloads : List Bytes) :
    framed (header :: headers) (payload :: payloads) =
      header ++ payload ++ framed headers payloads := by
  rw [framed, List.zipWith_cons_cons, List.flatten_cons, framed]

theorem length_framed {headers payloads : List Bytes} (h : List.Forall₂ Heads payloads headers) :
    (framed headers payloads).length = headers.flatten.length + payloads.flatten.length ∧
      2 * payloads.length ≤ headers.flatten.length := by
  induction h with
  | nil => exact ⟨rfl, Nat.le_refl _⟩
  | cons head _ ih =>
    have long := head.long
    simp only [framed_cons, List.flatten_cons, List.length_append, List.length_cons, ih.1]
    omega

/-- The payloads that are received one after another are those of frames that stand at the front of
the bytes, and behind these frames an error is met. -/
theorem payloads_framed (s : Source) :
    let left := skip (payloads s).length s
    (∃ e, (receive left).1 = .error e) ∧
      ∃ headers, List.Forall₂ Heads (payloads s) headers ∧
        s.remaining = framed headers (payloads s) ++ left.remaining := by
  induction s using payloads.induct with
  | case1 s payload t received ih =>
    rw [payloads_ok received, List.length_cons, skip_succ received]
    obtain ⟨failed, headers, heads, bytes⟩ := ih
    obtain ⟨frame, whole, first⟩ := receive_ok received
    obtain ⟨header, head, rfl⟩ := whole.heads
    refine ⟨failed, header :: headers, .cons head heads, ?_⟩
    rw [first, bytes, framed_cons, List.append_assoc _ (framed _ _)]
  | case2 s e t received =>
    rw [payloads_error received]
    exact ⟨⟨e, congrArg Prod.fst received⟩, [], .nil, rfl⟩

theorem receive_payloads {k : Nat} (h : (payloads s)[k]? = some payload) :
    (receive (skip k s)).1 = .ok payload := by
  induction s using payloads.induct generalizing k with
  | case1 s first t received ih =>
    rw [payloads_ok received] at h
    cases k with
    | zero =>
      cases h
      exact congrArg Prod.fst received
    | succ k =>
      rw [skip_succ received]
      exact ih h
  | case2 s e t received =>
    rw [payloads_error received] at h
    cases h

end HalBench.Frame
