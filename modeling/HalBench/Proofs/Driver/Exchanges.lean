import HalBench.Driver.Remote
import HalBench.Proofs.Frame.Whole
import HalBench.Proofs.Text.Utf8

/-! Requests on one connection, one after another. What a request comes to is told by the bytes
that were left unread before it and by what the peer sends after it. Nothing is left unread as long
as every reply is used up by the request that it follows; a broken reply may leave a frame behind,
and then the next request takes that for its answer. -/

namespace HalBench.Driver

open Service

namespace Connection

variable {c : Connection}

theorem exchange_closed (closed : c.closed = true) (payload : Bytes) :
    c.exchange payload = (.error (.io .brokenPipe), c) := by
  simp only [exchange, send, closed, if_true]

theorem exchange_open (opened : c.closed = false) (payload : Bytes) :
    c.exchange payload =
      ((Frame.receive (.ofBytes (c.inbox ++ (c.peer (c.sent ++ [payload])).bytes))).1,
        { c with
          sent := c.sent ++ [payload]
          inbox :=
            (Frame.receive (.ofBytes (c.inbox ++ (c.peer (c.sent ++ [payload])).bytes))).2.remaining
          closed := (c.peer (c.sent ++ [payload])).closes }) := by
  simp only [exchange, send, opened, receive]
  rfl

end Connection

namespace Remote

/-- What a request comes to. -/
inductive Outcome where
  | called (result : Except Error (Option Message))
  | listed (functions : List String)

namespace Outcome

def ofText (service text : String) : Request → Outcome
  | .call m =>
    if text = "void" then called (.ok none)
    else if text = "error" then
      called (.error (.failed (service ++ " reported an error for " ++ m.name)))
    else
      match Message.ofText text with
      | .ok result => called (.ok (some result))
      | .error fault => called (.error (.protocol fault))
  | .listFunctions =>
    match Json.Codec.textList.decodeText text with
    | .ok names => listed names
    | .error _ => listed []

/-- What a request comes to when a frame answers it, or the error that stands in its place. -/
def ofReply (service : String) (q : Request) : Except Frame.Error Bytes → Outcome
  | .ok payload => ofText service (Utf8.stringLossy payload) q
  | .error e =>
    match q with
    | .call _ => called (.error (.transport e))
    | .listFunctions => listed []

theorem ofText_failure (service : String) (m : Message) :
    ofText service "error" (.call m) =
      called (.error (.failed (service ++ " reported an error for " ++ m.name))) := by
  rw [ofText, if_neg (by decide), if_pos rfl]

theorem ofReply_bytes (service : String) (q : Request) (text : String) :
    ofReply service q (.ok (Utf8.bytes text)) = ofText service text q := by
  rw [ofReply, Utf8.stringLossy_bytes]

end Outcome

def perform (q : Request) (r : Remote) : Outcome × Remote :=
  match q with
  | .call m =>
    let (result, r) := r.call m
    (.called result, r)
  | .listFunctions =>
    let (names, r) := r.functions
    (.listed names, r)

def performAll : List Request → Remote → List Outcome × Remote
  | [], r => ([], r)
  | q :: rest, r =>
    let (outcome, r) := r.perform q
    let (outcomes, r) := performAll rest r
    (outcome :: outcomes, r)

variable {r : Remote} {q : Request} {requests rest : List Request}

theorem interpret_eq (service : String) (m : Message) (text : String) :
    .called (interpret service m.name text) = Outcome.ofText service text (.call m) := by
  unfold interpret Answer.classify Answer.nothingWord Answer.failureWord Outcome.ofText
  simp only
  by_cases nothing : text = "void"
  · rw [if_pos nothing, if_pos nothing]
  · rw [if_neg nothing, if_neg nothing]
    by_cases failure : text = "error"
    · rw [if_pos failure, if_pos failure]
    · rw [if_neg failure, if_neg failure]
      simp only
      cases Message.ofText text with
      | error fault => rfl
      | ok result => rfl

theorem functionsOf_eq (service text : String) :
    .listed (((Json.Codec.textList.decodeText text).mapError Error.protocol).toOption.getD []) =
      Outcome.ofText service text .listFunctions := by
  unfold Outcome.ofText
  simp only
  cases Json.Codec.textList.decodeText text with
  | error fault => rfl
  | ok names => rfl

theorem perform_eq (q : Request) (r : Remote) :
    r.perform q =
      (Outcome.ofReply r.service q (r.connection.exchange (Request.codec.encode q)).1,
        { r with connection := (r.connection.exchange (Request.codec.encode q)).2 }) := by
  cases q with
  | call m =>
    cases answered : r.connection.exchange (Request.codec.encode (.call m)) with
    | mk answer c =>
      simp only [perform, call, ask, answered]
      cases answer with
      | error e => rfl
      | ok payload => exact Prod.ext (interpret_eq r.service m (Utf8.stringLossy payload)) rfl
  | listFunctions =>
    cases answered : r.connection.exchange (Request.codec.encode .listFunctions) with
    | mk answer c =>
      simp only [perform, functions, ask, answered]
      cases answer with
      | error e => rfl
      | ok payload => exact Prod.ext (functionsOf_eq r.service (Utf8.stringLossy payload)) rfl

theorem performAll_cons (q : Request) (rest : List Request) (r : Remote) :
    performAll (q :: rest) r =
      ((r.perform q).1 :: (performAll rest (r.perform q).2).1,
        (performAll rest (r.perform q).2).2) := rfl

theorem performAll_closed (closed : r.connection.closed = true) (requests : List Request) :
    performAll requests r =
      (requests.map fun q => Outcome.ofReply r.service q (.error (.io .brokenPipe)), r) := by
  induction requests with
  | nil => rfl
  | cons q rest ih =>
    have refused : r.perform q = (Outcome.ofReply r.service q (.error (.io .brokenPipe)), r) := by
      rw [perform_eq, Connection.exchange_closed closed]
    rw [performAll_cons, refused, ih, List.map_cons]

/-- What the peer does after the request number `k` of some requests. -/
def reply (r : Remote) (requests : List Request) (k : Nat) : Reply :=
  r.connection.peer (r.connection.sent ++ (requests.take (k + 1)).map Request.codec.encode)

/-- What is unread before the request number `k` of some requests. -/
def unread (r : Remote) (requests : List Request) : Nat → Bytes
  | 0 => r.connection.inbox
  | k + 1 =>
    (Frame.receive (.ofBytes (r.unread requests k ++ (r.reply requests k).bytes))).2.remaining

/-- What is received after the request number `k` of some requests, with `waiting` bytes before
what the peer sends then. Nothing can be sent to a peer that has closed the connection. -/
def received (r : Remote) (requests : List Request) (waiting : Bytes) (k : Nat) :
    Except Frame.Error Bytes :=
  if ∃ j < k, (r.reply requests j).closes = true then .error (.io .brokenPipe)
  else (Frame.receive (.ofBytes (waiting ++ (r.reply requests k).bytes))).1

theorem received_eq {k : Nat} (stays : ∀ j < k, (r.reply requests j).closes = false)
    (waiting : Bytes) :
    r.received requests waiting k =
      (Frame.receive (.ofBytes (waiting ++ (r.reply requests k).bytes))).1 := by
  unfold received
  rw [if_neg]
  rintro ⟨j, before, closes⟩
  rw [stays j before] at closes
  cases closes

section Open
variable (opened : r.connection.closed = false)
include opened

theorem perform_open (rest : List Request) :
    r.perform q =
      (Outcome.ofReply r.service q (r.received (q :: rest) (r.unread (q :: rest) 0) 0),
        { r with
          connection :=
            { r.connection with
              sent := r.connection.sent ++ [Request.codec.encode q]
              inbox := r.unread (q :: rest) 1
              closed := (r.reply (q :: rest) 0).closes } }) := by
  rw [perform_eq, Connection.exchange_open opened]
  unfold received
  rw [if_neg (by simp)]
  rfl

theorem reply_succ (k : Nat) : r.reply (q :: rest) (k + 1) = (r.perform q).2.reply rest k := by
  rw [perform_open opened rest]
  simp only [reply, List.take_succ_cons, List.map_cons, List.append_assoc, List.singleton_append]

theorem unread_succ (k : Nat) : r.unread (q :: rest) (k + 1) = (r.perform q).2.unread rest k := by
  induction k with
  | zero =>
    rw [perform_open opened rest]
    rfl
  | succ k ih => rw [unread, ih, reply_succ opened, unread]

theorem received_succ (stays : (r.reply (q :: rest) 0).closes = false) (waiting : Bytes) (k : Nat) :
    r.received (q :: rest) waiting (k + 1) = (r.perform q).2.received rest waiting k := by
  have closed : (∃ j < k + 1, (r.reply (q :: rest) j).closes = true) ↔
      ∃ j < k, ((r.perform q).2.reply rest j).closes = true := by
    constructor
    · rintro ⟨j, before, closes⟩
      cases j with
      | zero => exact absurd closes (by simp [stays])
      | succ j => exact ⟨j, Nat.lt_of_succ_lt_succ before, reply_succ opened j ▸ closes⟩
    · rintro ⟨j, before, closes⟩
      exact ⟨j + 1, Nat.succ_lt_succ before, (reply_succ opened j).symm ▸ closes⟩
  unfold received
  simp only [closed, reply_succ opened]

/-- What each request comes to, with the bytes that were left unread before it. -/
theorem performAll_received (requests : List Request) (k : Nat) :
    (performAll requests r).1[k]? = requests[k]?.map fun q =>
      Outcome.ofReply r.service q (r.received requests (r.unread requests k) k) := by
  induction requests generalizing r k with
  | nil => rfl
  | cons q rest ih =>
    have performed := perform_open (q := q) opened rest
    have service : (r.perform q).2.service = r.service := by rw [performed]
    rw [performAll_cons]
    cases k with
    | zero => rw [List.getElem?_cons_zero, List.getElem?_cons_zero, Option.map_some, performed]
    | succ k =>
      rw [List.getElem?_cons_succ, List.getElem?_cons_succ]
      cases closes : (r.reply (q :: rest) 0).closes with
      | true =>
        have closed : (r.perform q).2.connection.closed = true := by rw [performed]; exact closes
        have refused : r.received (q :: rest) (r.unread (q :: rest) (k + 1)) (k + 1) =
            .error (.io .brokenPipe) := if_pos ⟨0, Nat.succ_pos k, closes⟩
        rw [performAll_closed closed, List.getElem?_map, refused, service]
      | false =>
        have opened' : (r.perform q).2.connection.closed = false := by rw [performed]; exact closes
        rw [ih opened' k, service, received_succ opened closes, unread_succ opened]

end Open

/-- Nothing is left unread when each reply is used up by the request that it follows. -/
theorem unread_eq_nil (nothing : r.connection.inbox = []) {k : Nat}
    (spent : ∀ j < k, Frame.Spent (r.reply requests j).bytes) : r.unread requests k = [] := by
  induction k with
  | zero => exact nothing
  | succ k ih =>
    have before := ih fun j inside => spent j (Nat.lt_succ_of_lt inside)
    rw [unread, before, List.nil_append]
    exact spent k (Nat.lt_succ_self k)

/-- A request comes to what the peer sends after it, and not to anything that was sent before, as
long as every reply before it was used up or was the last one of a peer that closed. -/
theorem performAll_fresh (opened : r.connection.closed = false)
    (nothing : r.connection.inbox = []) {k : Nat}
    (spent : ∀ j < k, (r.reply requests j).closes = true ∨
      Frame.Spent (r.reply requests j).bytes) :
    (performAll requests r).1[k]? =
      requests[k]?.map fun q => Outcome.ofReply r.service q (r.received requests [] k) := by
  rw [performAll_received opened]
  by_cases closed : ∃ j < k, (r.reply requests j).closes = true
  · simp only [received, if_pos closed]
  · have stays : ∀ j < k, Frame.Spent (r.reply requests j).bytes := fun j inside =>
      (spent j inside).resolve_left fun closes => closed ⟨j, inside, closes⟩
    rw [unread_eq_nil nothing stays]

/-- A peer that answers the first request with some bytes and reports an error for the others. -/
def failing (first : Bytes) : Remote where
  service := "svc"
  connection :=
    { peer := fun sent =>
        if sent.length = 1 then ⟨first, false⟩ else ⟨Frame.encode (Utf8.bytes "error"), false⟩ }

theorem closes_failing (first : Bytes) (requests : List Request) (k : Nat) :
    ((failing first).reply requests k).closes = false := by
  unfold reply failing
  simp only
  split
  · rfl
  · rfl

theorem reported (first : Bytes) (q : Request) (m : Message) :
    Outcome.ofReply "svc" (.call m) ((failing first).received [q, .call m] [] 1) =
      .called (.error (.failed ("svc" ++ " reported an error for " ++ m.name))) := by
  have second : (failing first).reply [q, .call m] 1 =
      ⟨Frame.encode (Utf8.bytes "error"), false⟩ := rfl
  have whole : Frame.Whole (Utf8.bytes "error") (Frame.encode (Utf8.bytes "error")) :=
    Frame.whole_encode (by decide)
  rw [received_eq fun j _ => closes_failing first _ j, second, List.nil_append, whole.received,
    Outcome.ofReply_bytes, Outcome.ofText_failure]

/-- The first reply is broken, and nothing stands behind it. -/
theorem performAll_fresh_broken :
    let requests : List Request := [.call ⟨"a", [], []⟩, .call ⟨"b", [], []⟩]
    let r := failing (Utf8.bytes "x\n")
    r.connection.closed = false ∧ r.connection.inbox = [] ∧
      (∀ j < 1, (r.reply requests j).closes = true ∨ Frame.Spent (r.reply requests j).bytes) ∧
      (performAll requests r).1[1]? =
        some (.called (.error (.failed "svc reported an error for b"))) := by
  intro requests r
  have spent : ∀ j < 1, (r.reply requests j).closes = true ∨
      Frame.Spent (r.reply requests j).bytes := by
    intro j inside
    obtain rfl : j = 0 := Nat.lt_one_iff.mp inside
    exact .inr rfl
  have fresh := performAll_fresh (r := r) rfl rfl spent
  exact ⟨rfl, rfl, spent, fresh.trans (congrArg some (reported _ _ _))⟩

/-- A frame behind a header that is no length is taken for the answer to the next request, whatever
the peer sends when it gets that one. -/
theorem performAll_behind (opened : r.connection.closed = false)
    (nothing : r.connection.inbox = []) {q next : Request} {rest : List Request}
    {written b payload : Bytes} {terminator : UInt8} {e : Frame.Error}
    (first : r.reply (q :: next :: rest) 0 = ⟨written ++ terminator :: b, false⟩)
    (short : written.length ≤ Frame.maxHeader)
    (plain : ∀ c ∈ written, Frame.isTerminator c = false)
    (stop : Frame.isTerminator terminator = true) (invalid : Frame.lengthOf? written = .error e)
    (whole : Frame.Whole payload b) :
    (performAll (q :: next :: rest) r).1[0]? = some (Outcome.ofReply r.service q (.error e)) ∧
      (performAll (q :: next :: rest) r).1[1]? =
        some (Outcome.ofReply r.service next (.ok payload)) := by
  have parsed : Frame.parse none (written ++ terminator :: b) = (.error e, b) := by
    rw [Frame.parse_written short plain stop, invalid]
  have read := Frame.receive_ofBytes (written ++ terminator :: b)
  rw [parsed] at read
  have left : r.unread (q :: next :: rest) 1 = b := by
    rw [unread, unread, nothing, first, List.nil_append, read.remaining]
  have stays : ∀ j < 1, (r.reply (q :: next :: rest) j).closes = false := by
    intro j before
    obtain rfl : j = 0 := Nat.lt_one_iff.mp before
    rw [first]
  rw [performAll_received opened, performAll_received opened]
  constructor
  · rw [received_eq (fun j before => absurd before (Nat.not_lt_zero j)), unread, nothing, first,
      List.nil_append, read.answer]
    rfl
  · rw [received_eq stays, left, (Frame.receive_ofBytes _).answer, whole.parse_append]
    rfl

/-- The second call takes the frame behind the broken header for its answer, and not the failure
that the peer reports when it gets that call. -/
theorem performAll_stale :
    let requests : List Request := [.call ⟨"a", [], []⟩, .call ⟨"b", [], []⟩]
    let r := failing (Utf8.bytes "x\n4\nvoid")
    r.connection.closed = false ∧ r.connection.inbox = [] ∧
      (performAll requests r).1[0]? =
        some (.called (.error (.transport (.invalidLength ['x'])))) ∧
      (performAll requests r).1[1]? = some (.called (.ok none)) ∧
      Outcome.ofReply "svc" (.call ⟨"b", [], []⟩) (r.received requests [] 1) =
        .called (.error (.failed "svc reported an error for b")) := by
  intro requests r
  have invalid : Frame.lengthOf? [120] = .error (.invalidLength ['x']) := by
    rw [Frame.lengthOf?, if_neg (by decide)]
    rfl
  have whole : Frame.Whole (Utf8.bytes "void") (Utf8.bytes "4\nvoid") :=
    Frame.whole_encode (by decide)
  obtain ⟨first, second⟩ := performAll_behind (r := r) rfl rfl
    (show r.reply requests 0 = ⟨[120] ++ 10 :: Utf8.bytes "4\nvoid", false⟩ from rfl)
    (by decide) (List.forall_mem_singleton.mpr rfl) rfl invalid whole
  rw [Outcome.ofReply_bytes] at second
  exact ⟨rfl, rfl, first, second, reported _ _ _⟩

end Remote

end HalBench.Driver
