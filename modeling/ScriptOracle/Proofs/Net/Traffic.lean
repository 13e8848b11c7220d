import ScriptOracle.Net.Client
import ScriptOracle.Proofs.Sandbox.Course

/-!
# Messages on the network

The quota of a run counts the requests that its gate hands over. What is put on the network for one of them
is its own message, and one more for every answer that points to another address, ten times at most. So
the messages of a run pass the quota by the answers that send them on, and by nothing else.
-/

namespace ScriptOracle.Net

open Gate (Prepared)

/-- Whether an answer sends the message on to another address. -/
def Exchange.isMoved : Exchange -> Bool
  | .moved _ _ => true
  | _ => false

namespace Client

/-- How many of some messages are sent on, each put on the network behind those before it. -/
def countMoved (network : Network) (before : List Message) : List Message -> Nat
  | [] => 0
  | message :: rest =>
    (network.deliver before message).isMoved.toNat + countMoved network (before ++ [message]) rest

/-- The messages of one request: its own, and behind each that is sent on the one for the address that
the answer points to. -/
inductive Trail (network : Network) : List Message -> Nat -> Message -> List Message -> Prop
  | last (before : List Message) (moves : Nat) (message : Message) :
      Trail network before moves message [message]
  | onward {before rest : List Message} {moves status : Nat} {message : Message} {url : String}
      (answer : network.deliver before message = .moved status url)
      (behind : Trail network (before ++ [message]) moves (movedTo message status url) rest) :
      Trail network before (moves + 1) message (message :: rest)

/-- Where a message behind others comes from: it is that of a request, or the one right before it was
answered by its address. -/
def Sourced (network : Network) (requests : List Prepared) (before : List Message)
    (message : Message) : Prop :=
  (∃ request ∈ requests, message = messageOf request) ∨
    ∃ former last status url, before = former ++ [last] ∧
      network.deliver former last = .moved status url ∧ message = movedTo last status url

def Accounted (network : Network) (requests : List Prepared) (before messages : List Message) : Prop :=
  ∀ earlier message later, messages = earlier ++ message :: later →
    Sourced network requests (before ++ earlier) message

variable {network : Network} {before messages : List Message} {message : Message} {moves : Nat}
  {requests : List Prepared}

/-! ## One request -/

theorem countMoved_append (before first second : List Message) :
    countMoved network before (first ++ second) =
      countMoved network before first + countMoved network (before ++ first) second := by
  induction first generalizing before with
  | nil => simp [countMoved]
  | cons message first ih => simp [countMoved, ih, Nat.add_assoc]

theorem trail_follow (network : Network) (maximum moves : Nat) (before : List Message)
    (message : Message) :
    Trail network before moves message (follow network maximum before moves message).1 := by
  induction moves generalizing before message with
  | zero =>
      unfold follow
      cases network.deliver before message <;> exact .last before 0 message
  | succ moves ih =>
      unfold follow
      cases answer : network.deliver before message with
      | moved status url => exact .onward answer (ih _ _)
      | failed | answered => exact .last before _ message

theorem Trail.length_le (trail : Trail network before moves message messages) :
    messages.length ≤ moves + 1 := by
  induction trail with
  | last before moves message => exact Nat.le_add_left 1 moves
  | onward answer behind ih =>
      rw [List.length_cons]
      omega

theorem Trail.length_le_countMoved (trail : Trail network before moves message messages) :
    messages.length ≤ 1 + countMoved network before messages := by
  induction trail with
  | last before moves message => exact Nat.le_add_right 1 _
  | onward answer behind ih =>
      rw [List.length_cons, countMoved, answer]
      simp only [Exchange.isMoved, Bool.toNat_true]
      omega

theorem accounted_singleton (sourced : Sourced network requests before message) :
    Accounted network requests before [message] := by
  intro earlier found later split
  obtain ⟨rfl, rest⟩ := List.singleton_eq_append_iff.1 split |>.resolve_right (by simp)
  obtain ⟨rfl, -⟩ := List.cons.inj rest
  rwa [List.append_nil]

theorem Accounted.append {first second : List Message}
    (one : Accounted network requests before first)
    (two : Accounted network requests (before ++ first) second) :
    Accounted network requests before (first ++ second) := by
  intro earlier message later split
  rcases List.append_eq_append_iff.1 split with ⟨shared, rfl, rest⟩ | ⟨shared, rfl, rest⟩
  · rw [← List.append_assoc]
    exact two shared message later rest
  · cases shared with
    | nil =>
        simpa only [List.append_nil] using two [] message later rest.symm
    | cons head shared =>
        obtain ⟨rfl, rfl⟩ := List.cons.inj rest
        exact one earlier message shared rfl

theorem Trail.accounted (trail : Trail network before moves message messages)
    (sourced : Sourced network requests before message) :
    Accounted network requests before messages := by
  induction trail with
  | last => exact accounted_singleton sourced
  | @onward before rest moves status message url answer behind ih =>
      have next : Sourced network requests (before ++ [message]) (movedTo message status url) :=
        .inr ⟨before, message, status, url, rfl, answer, rfl⟩
      exact (accounted_singleton sourced).append (ih next)

/-- A request is put on the network by a trail that starts with its message, or cannot be sent. -/
theorem exchange_cases (network : Network) (before : List Message) (request : Prepared) :
    (exchange network before request).1 = [] ∨
      Trail network before maxMoves (messageOf request) (exchange network before request).1 := by
  unfold exchange
  split
  · exact .inl rfl
  · split
    · exact .inl rfl
    · exact .inr (trail_follow network _ maxMoves before _)

/-! ## The requests of a run -/

/-- What is known of the messages that some requests put on the network. -/
structure Carried (network : Network) (requests : List Prepared) (before messages : List Message) :
    Prop where
  bounded : messages.length ≤ requests.length * (maxMoves + 1)
  counted : messages.length ≤ requests.length + countMoved network before messages
  accounted : Accounted network requests before messages

theorem carried_exchange (network : Network) (before : List Message) (request : Prepared) :
    Carried network [request] before (exchange network before request).1 := by
  rcases exchange_cases network before request with none | trail
  · rw [none]
    exact ⟨Nat.zero_le _, Nat.zero_le _, fun _ _ _ split => by simp at split⟩
  · have own : Sourced network [request] before (messageOf request) :=
      .inl ⟨request, List.mem_singleton_self request, rfl⟩
    refine ⟨?_, trail.length_le_countMoved, trail.accounted own⟩
    rw [List.length_singleton, Nat.one_mul]
    exact trail.length_le

theorem Accounted.mono {more : List Prepared} (accounted : Accounted network requests before messages)
    (known : requests ⊆ more) : Accounted network more before messages :=
  fun earlier message later split =>
    (accounted earlier message later split).imp_left fun ⟨request, member, same⟩ =>
      ⟨request, known member, same⟩

theorem carried_traffic (network : Network) (before : List Message) (requests : List Prepared) :
    ∃ messages, traffic network before requests = before ++ messages ∧
      Carried network requests before messages := by
  induction requests generalizing before with
  | nil =>
      refine ⟨[], (List.append_nil before).symm, Nat.zero_le _, Nat.zero_le _, ?_⟩
      intro earlier message later split
      simp at split
  | cons request requests ih =>
      have first := carried_exchange network before request
      obtain ⟨rest, all, carried⟩ := ih (before ++ (exchange network before request).1)
      refine ⟨(exchange network before request).1 ++ rest, ?_, ?_, ?_, ?_⟩
      · rw [traffic, all, List.append_assoc]
      · have one := first.bounded
        have more := carried.bounded
        rw [List.length_singleton, Nat.one_mul] at one
        rw [List.length_append, List.length_cons, Nat.succ_mul]
        omega
      · have one := first.counted
        have more := carried.counted
        rw [List.length_singleton] at one
        rw [List.length_append, List.length_cons, countMoved_append]
        omega
      · exact (first.accounted.mono (by simp)).append
          (carried.accounted.mono (List.subset_cons_self request requests))

end Client

open Sandbox

/-- What a run puts on the network: the messages of its requests, which are within the quota, and for each
answer that points to another address at most one message more, no more than ten for a request. Where no
answer does that, the quota bounds the messages too. -/
theorem messages_of_run (network : Network) (interrupts : List Prepared -> Prepared -> Bool)
    (hasAborted : Bool) (abandons : List Gate.LogEntry -> Bool) (runner : Runner) (disk : Disk)
    (request : Request) :
    let host : Host :=
      ⟨{ Client.transport network with interrupts := interrupts }, hasAborted, abandons⟩
    let sent := (runner.evaluate host disk request).1.sent
    let messages := Client.traffic network [] sent
    sent.length ≤ request.quota ∧
      Client.Accounted network sent [] messages ∧
      messages.length ≤ request.quota + Client.countMoved network [] messages ∧
      messages.length ≤ request.quota * 11 := by
  intro host sent messages
  have within : sent.length ≤ request.quota := runner.length_sent_evaluate_le host disk request
  obtain ⟨found, all, carried⟩ := Client.carried_traffic network [] sent
  obtain rfl : messages = found := all
  refine ⟨within, carried.accounted, ?_, ?_⟩
  · exact Nat.le_trans carried.counted (Nat.add_le_add_right within _)
  · exact Nat.le_trans carried.bounded (Nat.mul_le_mul_right _ within)

/-- A network that answers every message by the address it was sent to. -/
def Network.turning : Network := ⟨fun _ message => .moved 302 message.url⟩

/-- One request is allowed, and eleven messages are put on the network. -/
theorem quota_exceeded_by_moves :
    let request : Request :=
      ⟨"Functions.makeHttpRequest(\x7b url: 'https://a.b/' \x7d);", [], none, 1⟩
    let report := ((Runner.start ⟨["scratch"], true⟩).evaluate
      (.patient (Client.transport .turning)) .blank request).1
    request.quota = 1 ∧ report.sent.length = 1 ∧
      (Client.traffic .turning [] report.sent).length = 11 := by
  decide +kernel

end ScriptOracle.Net
