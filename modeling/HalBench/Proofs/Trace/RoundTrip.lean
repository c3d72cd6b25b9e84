import HalBench.Proofs.Service.Message
import HalBench.Proofs.Trace.Writing

/-! Records that are written are read back. -/

namespace HalBench.Trace

open Json

/-- Values without floats that leave room for what is around them in a record. -/
def Plain (values : List Value) : Prop := ∀ v ∈ values, v.tree.FloatFree ∧ v.tree.Within 124

/-- A record whose version is read back from its text and whose values are plain. -/
structure Record.Faithful (r : Record) : Prop where
  version : (Schema.float .single).decode (Utf8.encode (renderFloat .single r.version)) =
    .ok r.version
  arguments : Plain r.message.arguments
  returns : Plain r.message.returns

theorem sound_codec : Record.codec.schema.Sound := by
  have events : Event.names.Nodup := by decide
  refine ⟨events, ?_, trivial, ?_, trivial, ?_, trivial, ?_, Service.Message.sound_codec, ?_,
    trivial, ?_, trivial⟩
  all_goals decide

theorem holds_message {P : Tree → Prop} {m : Service.Message} (arguments : Plain m.arguments)
    (returns : Plain m.returns)
    (each : ∀ v : Value, v.tree.FloatFree ∧ v.tree.Within 124 → P v.tree) :
    Service.Message.codec.schema.Holds P (Service.Message.codec.pack m) :=
  Service.Message.holds (fun v hv => each v (arguments v hv)) fun v hv => each v (returns v hv)

theorem legible_message {m : Service.Message} (arguments : Plain m.arguments)
    (returns : Plain m.returns) :
    Service.Message.codec.schema.Legible (Service.Message.codec.pack m) :=
  Service.Message.legible (fun v hv => (arguments v hv).1) fun v hv => (returns v hv).1

theorem within_message {m : Service.Message} (arguments : Plain m.arguments)
    (returns : Plain m.returns) : Tree.Within 126 (Service.Message.codec.toTree m) :=
  Service.Message.within (fun v hv => (arguments v hv).2) fun v hv => (returns v hv).2

namespace Record.Faithful

variable {r : Record}

theorem legible (h : r.Faithful) : Record.codec.schema.Legible (Record.codec.pack r) :=
  ⟨trivial, trivial, legible_of_decode h.version, trivial, legible_message h.arguments h.returns,
    fun _ _ => trivial, trivial⟩

theorem within (h : r.Faithful) : Tree.Within maxDepth (Record.codec.toTree r) := by
  have message : Service.Message.codec.schema.Holds (Tree.Within 124)
      (Service.Message.codec.pack r.message) :=
    holds_message h.arguments h.returns fun _ plain => plain.2
  exact Schema.within_write Record.codec.schema _
    ⟨trivial, trivial, trivial, trivial, message, fun _ _ => trivial, trivial⟩

theorem decoded (h : r.Faithful) : Record.codec.decode (Record.codec.encode r) = .ok r :=
  Codec.decode_encode sound_codec h.legible h.within

theorem carried (h : r.Faithful) (room : Frame.Allocatable (Record.codec.encode r)) : r.Carried :=
  ⟨room, h.decoded⟩

end Record.Faithful

/-- Faithful records are written and are read back, in the order in which they were written and
in any pieces, and after them there is the end. The text of a record that is written is in memory,
and so there is room for it when it is read. -/
theorem written_read {records : List Record} (faithful : ∀ r ∈ records, r.Faithful)
    (allocatable : ∀ r ∈ records, Frame.Allocatable (Record.codec.encode r))
    {turns : List Uptake} :
    ∃ w, Writer.appendAll records ⟨{ turns }, 0⟩ = (.ok (), w) ∧ w.count = records.length ∧
      ∀ source : Source, source.remaining = w.sink.written → source.fault = none → ∀ k,
        ∃ reader : Reader, reader.count = records.length ∧
          Reader.requests (records.length + k) ⟨source, 0⟩ =
            (answersOf records ++ List.replicate k (.ok none), reader) := by
  have carried : ∀ r ∈ records, r.Carried := fun r hr => ⟨allocatable r hr, (faithful r hr).decoded⟩
  obtain ⟨w, calls, written, count⟩ :=
    @Writer.appendAll_ok ⟨{ turns }, 0⟩ records rfl rfl
  refine ⟨w, calls, count.trans (Nat.zero_add _), fun source bytes fault k => ?_⟩
  have all : source.remaining = bytesOf records ++ [] := by
    rw [bytes, written, List.append_nil]
    rfl
  obtain ⟨s, left, same, read, requests⟩ := @requests_bytesOf ⟨source, 0⟩ [] records carried all
  obtain ⟨answers, kept⟩ := Reader.requests_end left (same.trans fault) k
  refine ⟨(Reader.requests k s).2, kept.trans (read.trans (Nat.zero_add _)), ?_⟩
  rw [requests k, answers]

/-- A record with strings that are escaped or have letters of several bytes. -/
def Record.quoted : Record where
  event := ⟨.client, .entry⟩
  package := "a.\"b\"\\c"
  version := .finite false 8388608 (-23)
  interface := "é\n"
  message := ⟨"\x07", [⟨.array [.text "\t", .null], trivial, trivial, trivial⟩], []⟩
  timestamp := -1

theorem Record.faithful_quoted : Record.quoted.Faithful where
  version := rfl
  arguments := by
    refine List.forall_mem_cons.mpr ⟨⟨.array ?_, .array ?_⟩, nofun⟩
    · exact List.forall_mem_cons.mpr ⟨.text _, List.forall_mem_cons.mpr ⟨.null, nofun⟩⟩
    · exact List.forall_mem_cons.mpr ⟨.text _, List.forall_mem_cons.mpr ⟨.null, nofun⟩⟩
  returns := nofun

theorem Record.allocatable_quoted : Frame.Allocatable (Record.codec.encode Record.quoted) := by
  unfold Frame.Allocatable
  decide +kernel

/-- Two records are read back from a sink that takes one byte, is interrupted, and takes the
rest. -/
theorem written_read_quoted :
    let records := [Record.quoted, Record.quoted]
    (∀ r ∈ records, r.Faithful) ∧ (∀ r ∈ records, Frame.Allocatable (Record.codec.encode r)) ∧
      ∃ w, Writer.appendAll records ⟨{ turns := [.upTo 0, .interrupted] }, 0⟩ = (.ok (), w) ∧
        w.count = 2 ∧ ∃ reader : Reader, reader.count = 2 ∧
          Reader.requests 3 ⟨.ofBytes w.sink.written, 0⟩ =
            ([.ok (some Record.quoted), .ok (some Record.quoted), .ok none], reader) := by
  intro records
  have faithful : ∀ r ∈ records, r.Faithful := by
    intro r hr
    obtain rfl := List.eq_of_mem_replicate (n := 2) hr
    exact Record.faithful_quoted
  have allocatable : ∀ r ∈ records, Frame.Allocatable (Record.codec.encode r) := by
    intro r hr
    obtain rfl := List.eq_of_mem_replicate (n := 2) hr
    exact Record.allocatable_quoted
  obtain ⟨w, calls, count, read⟩ := written_read faithful allocatable
  exact ⟨faithful, allocatable, w, calls, count, read _ (Source.remaining_ofBytes _) rfl 1⟩

end HalBench.Trace
