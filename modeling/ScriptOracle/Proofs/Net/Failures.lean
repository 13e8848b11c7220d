import ScriptOracle.Net.Client

/-!
# What is told of failures

As long as there is no answer, a failure is told by its kind alone: the time was up, nobody could be reached,
or anything else. What the client says of it is left out, for it may name addresses of the host. This is
not so for a body that breaks off. Of it the text of the client is told, and never that the time was up.
-/

namespace ScriptOracle.Net

open Gate (Outcome Prepared)

/-! ## Networks that differ in texts -/

/-- Two failures of one kind. -/
structure Fault.Alike (fault other : Fault) : Prop where
  timedOut : other.timedOut = fault.timedOut
  connecting : other.connecting = fault.connecting

/-- Two exchanges that differ at most in what the client says of failures. -/
inductive Exchange.Alike : Exchange -> Exchange -> Prop where
  | failed {fault other : Fault} (alike : fault.Alike other) : Alike (.failed fault) (.failed other)
  | moved (status : Nat) (url : String) : Alike (.moved status url) (.moved status url)
  | whole (status : Nat) (headers : List (String × Bytes)) (pieces : List Bytes) :
      Alike (.answered status headers pieces none) (.answered status headers pieces none)
  | broken (status : Nat) (headers : List (String × Bytes)) (pieces : List Bytes) {fault other : Fault}
      (alike : fault.Alike other) :
      Alike (.answered status headers pieces (some fault)) (.answered status headers pieces (some other))

def Network.Alike (network other : Network) : Prop :=
  ∀ before message, (network.deliver before message).Alike (other.deliver before message)

theorem Fault.Alike.failure_eq {fault other : Fault} (alike : fault.Alike other) (timeoutMs : Nat) :
    other.failure timeoutMs = fault.failure timeoutMs := by
  rw [Fault.failure, Fault.failure, alike.timedOut, alike.connecting]

section Alike

variable {network other : Network} {before : List Message} {message : Message}

theorem Network.Alike.failed (alike : network.Alike other) {fault : Fault}
    (answer : network.deliver before message = .failed fault) :
    ∃ said, other.deliver before message = .failed said ∧ fault.Alike said := by
  have step := answer ▸ alike before message
  generalize other.deliver before message = answered at step
  cases step with
  | failed same => exact ⟨_, rfl, same⟩

theorem Network.Alike.moved (alike : network.Alike other) {status : Nat} {url : String}
    (answer : network.deliver before message = .moved status url) :
    other.deliver before message = .moved status url := by
  have step := answer ▸ alike before message
  generalize other.deliver before message = answered at step
  cases step
  rfl

theorem Network.Alike.answered (alike : network.Alike other) {status : Nat}
    {headers : List (String × Bytes)} {pieces : List Bytes} {broken : Option Fault}
    (answer : network.deliver before message = .answered status headers pieces broken) :
    ∃ said, other.deliver before message = .answered status headers pieces said ∧
      (broken = none → said = none) := by
  have step := answer ▸ alike before message
  generalize other.deliver before message = answered at step
  cases step with
  | whole => exact ⟨none, rfl, id⟩
  | broken => exact ⟨_, rfl, nofun⟩

end Alike

def Exchange.reworded (text : String) : Exchange -> Exchange
  | .failed fault => .failed { fault with text := text }
  | .moved status url => .moved status url
  | .answered status headers pieces broken =>
    .answered status headers pieces (broken.map fun fault => { fault with text := text })

def Network.reworded (network : Network) (text : String) : Network :=
  ⟨fun before message => (network.deliver before message).reworded text⟩

theorem Network.alike_reworded (network : Network) (text : String) :
    network.Alike (network.reworded text) := by
  intro before message
  show (network.deliver before message).Alike ((network.deliver before message).reworded text)
  cases network.deliver before message with
  | failed fault => exact .failed ⟨rfl, rfl⟩
  | moved status url => exact .moved status url
  | answered status headers pieces broken =>
      cases broken with
      | none => exact .whole status headers pieces
      | some fault => exact .broken status headers pieces ⟨rfl, rfl⟩

namespace Client

/-! ## Bodies -/

section Body

variable {count maximum status : Nat} {broken : Option Fault} {kept : Bytes} {pieces : List Bytes}
  {headers : List (String × Bytes)}

/-- What is gathered is cut off, and only a body that is too short for that can break off. -/
theorem gather_eq (within : kept.length ≤ count) :
    gather count broken kept pieces =
      if (kept ++ pieces.flatten).length < count then
        match broken with
        | none => .ok (kept ++ pieces.flatten)
        | some fault => .error (.http fault.text)
      else .ok ((kept ++ pieces.flatten).take count) := by
  induction pieces generalizing kept with
  | nil =>
      rw [List.flatten_nil, List.append_nil]
      unfold gather
      by_cases short : kept.length < count
      · cases broken <;> simp [short]
      · rw [if_neg short, if_neg short, List.take_of_length_le (by omega)]
  | cons piece pieces ih =>
      rw [gather]
      by_cases short : kept.length < count
      · have next : (kept ++ piece.take (count - kept.length)).length ≤ count := by
          rw [List.length_append, List.length_take]
          omega
        rw [if_pos short, ih next]
        by_cases fits : piece.length ≤ count - kept.length
        · rw [List.take_of_length_le fits, List.flatten_cons, List.append_assoc]
        · have full : (kept ++ piece.take (count - kept.length)).length = count := by
            rw [List.length_append, List.length_take]
            omega
          have front : kept ++ (piece :: pieces).flatten =
              kept ++ piece.take (count - kept.length) ++
                (piece.drop (count - kept.length) ++ pieces.flatten) := by
            rw [List.flatten_cons, List.append_assoc kept, ← List.append_assoc (piece.take _),
              List.take_append_drop]
          rw [front, List.take_left' full, List.take_left' full, if_neg, if_neg]
          all_goals
            rw [List.length_append, full]
            omega
      · have full : kept.length = count := Nat.le_antisymm within (Nat.le_of_not_lt short)
        rw [if_neg short, List.take_left' full, if_neg]
        rw [List.length_append, full]
        omega

theorem gather_start :
    gather count broken [] pieces =
      if pieces.flatten.length < count then
        match broken with
        | none => .ok pieces.flatten
        | some fault => .error (.http fault.text)
      else .ok (pieces.flatten.take count) :=
  gather_eq (Nat.zero_le count)

theorem reply_of_broken {fault : Fault} (short : pieces.flatten.length < window maximum) :
    reply maximum status headers pieces (some fault) = .error (.http fault.text) := by
  rw [reply, gather_start, if_pos short]
  rfl

/-- Of a body that is long enough it does not matter how it ends. -/
theorem reply_of_long {other : Option Fault} (long : ¬pieces.flatten.length < window maximum) :
    reply maximum status headers pieces other = reply maximum status headers pieces broken := by
  rw [reply, reply, gather_start, gather_start, if_neg long, if_neg long]

theorem reply_of_gathered {body : Bytes} (gathered : gather (window maximum) broken [] pieces = .ok body) :
    reply maximum status headers pieces broken =
      if maximum < body.length then .error (.responseTooLarge maximum)
      else .ok ⟨status, readableHeaders headers, body⟩ := by
  unfold reply
  rw [gathered]
  by_cases beyond : maximum < body.length <;>
    simp [beyond, Bind.bind, Except.bind, Pure.pure, Except.pure, throw, throwThe, MonadExceptOf.throw]

theorem reply_error_cases {failure : Gate.Failure}
    (failed : reply maximum status headers pieces broken = .error failure) :
    failure = .responseTooLarge maximum ∨
      ∃ fault, broken = some fault ∧ pieces.flatten.length < window maximum := by
  have tooLarge : ∀ body : Bytes, gather (window maximum) broken [] pieces = .ok body →
      failure = .responseTooLarge maximum := by
    intro body gathered
    rw [reply_of_gathered gathered] at failed
    split at failed <;> cases failed
    rfl
  rw [gather_start] at tooLarge
  by_cases short : pieces.flatten.length < window maximum
  · cases broken with
    | some fault => exact .inr ⟨fault, rfl, short⟩
    | none => exact .inl (tooLarge _ (if_pos short))
  · exact .inl (tooLarge _ (if_neg short))

end Body

/-! ## Failures of requests -/

/-- When a request fails: before any message is sent, before there is an answer, or within its body. -/
inductive Phase where
  | building
  | sending
  | reading
deriving DecidableEq, Repr

def Phase.tells (timeoutMs : Nat) (fault : Fault) : Phase -> Gate.Failure
  | .building | .sending => fault.failure timeoutMs
  | .reading => .http fault.text

/-- The failure of a message, or of one of those that it is sent on by. A body does not fail once so much
of it is there that no more is read. -/
inductive Breaks (network : Network) (maximum : Nat) :
    List Message -> Nat -> Message -> Phase -> Fault -> Prop where
  | unanswered {before : List Message} {message : Message} {fault : Fault} (moves : Nat)
      (answer : network.deliver before message = .failed fault) :
      Breaks network maximum before moves message .sending fault
  | lost {before : List Message} {message : Message} {status : Nat} {url : String}
      (answer : network.deliver before message = .moved status url) :
      Breaks network maximum before 0 message .sending lostTrack
  | cut {before : List Message} {message : Message} {status : Nat} {headers : List (String × Bytes)}
      {pieces : List Bytes} {fault : Fault} (moves : Nat)
      (answer : network.deliver before message = .answered status headers pieces (some fault))
      (short : pieces.flatten.length < window maximum) :
      Breaks network maximum before moves message .reading fault
  | onward {before : List Message} {moves status : Nat} {message : Message} {url : String} {phase : Phase}
      {fault : Fault} (answer : network.deliver before message = .moved status url)
      (behind : Breaks network maximum (before ++ [message]) moves (movedTo message status url) phase
        fault) :
      Breaks network maximum before (moves + 1) message phase fault

/-- The failure of a request, in the words of the client. -/
inductive Fails (network : Network) (before : List Message) (request : Prepared) : Phase -> Fault -> Prop where
  | unbuilt (headers : areHeaders request.headers = false) : Fails network before request .building unbuilt
  | broken {phase : Phase} {fault : Fault} (headers : areHeaders request.headers = true)
      (breaks : Breaks network request.maxResponseBytes before maxMoves (messageOf request) phase fault) :
      Fails network before request phase fault

section Follow

variable {network other : Network} {before : List Message} {message : Message} {moves maximum : Nat}
  {phase : Phase} {fault : Fault}

@[simp] theorem movedTo_timeoutMs (message : Message) (status : Nat) (url : String) :
    (movedTo message status url).timeoutMs = message.timeoutMs := by
  unfold movedTo
  split <;> rfl

/-! ### What follows a message -/

theorem follow_of_failed (answer : network.deliver before message = .failed fault) :
    follow network maximum before moves message =
      ([message], .error (fault.failure message.timeoutMs)) := by
  unfold follow
  rw [answer]

theorem follow_of_answered {status : Nat} {headers : List (String × Bytes)} {pieces : List Bytes}
    {broken : Option Fault} (answer : network.deliver before message = .answered status headers pieces broken) :
    follow network maximum before moves message =
      ([message], reply maximum status headers pieces broken) := by
  unfold follow
  rw [answer]

theorem follow_of_moved_zero {status : Nat} {url : String}
    (answer : network.deliver before message = .moved status url) :
    follow network maximum before 0 message =
      ([message], .error (lostTrack.failure message.timeoutMs)) := by
  unfold follow
  rw [answer]

theorem follow_of_moved_succ {status : Nat} {url : String}
    (answer : network.deliver before message = .moved status url) :
    follow network maximum before (moves + 1) message =
      (message :: (follow network maximum (before ++ [message]) moves (movedTo message status url)).1,
        (follow network maximum (before ++ [message]) moves (movedTo message status url)).2) := by
  conv => lhs; unfold follow
  rw [answer]

theorem Breaks.follow_eq (breaks : Breaks network maximum before moves message phase fault) :
    (follow network maximum before moves message).2 = .error (phase.tells message.timeoutMs fault) := by
  induction breaks with
  | unanswered moves answer => exact congrArg Prod.snd (follow_of_failed answer)
  | lost answer => exact congrArg Prod.snd (follow_of_moved_zero answer)
  | cut moves answer short =>
      rw [follow_of_answered answer]
      exact reply_of_broken short
  | onward answer behind ih =>
      rw [movedTo_timeoutMs] at ih
      rw [follow_of_moved_succ answer]
      exact ih

theorem follow_error_cases {failure : Gate.Failure}
    (failed : (follow network maximum before moves message).2 = .error failure) :
    failure = .responseTooLarge maximum ∨
      ∃ phase fault, Breaks network maximum before moves message phase fault := by
  induction before, moves, message using follow.induct network maximum with
  | case1 before moves message fault answer => exact .inr ⟨.sending, fault, .unanswered moves answer⟩
  | case2 before moves message status headers pieces broken answer =>
      rw [follow_of_answered answer] at failed
      refine (reply_error_cases failed).imp_right ?_
      rintro ⟨fault, rfl, short⟩
      exact ⟨.reading, fault, .cut moves answer short⟩
  | case3 before message status url answer => exact .inr ⟨.sending, lostTrack, .lost answer⟩
  | case4 before message status url answer moves sent result same ih =>
      rw [follow_of_moved_succ answer] at failed
      refine (ih failed).imp_right ?_
      rintro ⟨phase, fault, behind⟩
      exact ⟨phase, fault, .onward answer behind⟩

/-! ### Networks that differ in texts -/

/-- The same messages are sent, for where a message is sent on to is no part of any text. -/
theorem follow_fst_of_alike (alike : network.Alike other) (maximum moves : Nat) (before : List Message)
    (message : Message) :
    (follow other maximum before moves message).1 = (follow network maximum before moves message).1 := by
  induction before, moves, message using follow.induct network maximum with
  | case1 before moves message fault answer =>
      obtain ⟨said, answered, -⟩ := alike.failed answer
      rw [follow_of_failed answer, follow_of_failed answered]
  | case2 before moves message status headers pieces broken answer =>
      obtain ⟨said, answered, -⟩ := alike.answered answer
      rw [follow_of_answered answer, follow_of_answered answered]
  | case3 before message status url answer =>
      rw [follow_of_moved_zero answer, follow_of_moved_zero (alike.moved answer)]
  | case4 before message status url answer moves sent result same ih =>
      rw [follow_of_moved_succ answer, follow_of_moved_succ (alike.moved answer), ih]

/-- If no body fails, the gate is told the same. -/
theorem follow_of_alike (alike : network.Alike other)
    (whole : ∀ fault, ¬Breaks network maximum before moves message .reading fault) :
    follow other maximum before moves message = follow network maximum before moves message := by
  induction before, moves, message using follow.induct network maximum with
  | case1 before moves message fault answer =>
      obtain ⟨said, answered, same⟩ := alike.failed answer
      rw [follow_of_failed answer, follow_of_failed answered, same.failure_eq]
  | case2 before moves message status headers pieces broken answer =>
      obtain ⟨said, answered, same⟩ := alike.answered answer
      rw [follow_of_answered answer, follow_of_answered answered]
      cases broken with
      | none => rw [same rfl]
      | some fault => rw [reply_of_long fun short => whole fault (.cut moves answer short)]
  | case3 before message status url answer =>
      rw [follow_of_moved_zero answer, follow_of_moved_zero (alike.moved answer)]
  | case4 before message status url answer moves sent result same ih =>
      have behind := ih fun fault breaks => whole fault (.onward answer breaks)
      rw [follow_of_moved_succ answer, follow_of_moved_succ (alike.moved answer), behind]

/-- A body that fails does so whatever is said of it. -/
theorem Breaks.reworded (breaks : Breaks network maximum before moves message phase fault)
    (within : phase = .reading) (text : String) :
    Breaks (network.reworded text) maximum before moves message .reading { fault with text := text } := by
  induction breaks with
  | unanswered => cases within
  | lost => cases within
  | @cut before message _ _ _ _ moves answer short =>
      have said : (network.reworded text).deliver before message = _ := congrArg (·.reworded text) answer
      exact .cut moves said short
  | @onward before _ _ message _ _ _ answer behind ih =>
      have said : (network.reworded text).deliver before message = _ := congrArg (·.reworded text) answer
      exact .onward said (ih within)

end Follow

/-! ## Requests -/

section Exchange

variable {network other : Network} {before : List Message} {request : Prepared} {phase : Phase} {fault : Fault}

theorem exchange_of_unsupported (unsupported : isMethod request.method = false) :
    exchange network before request = ([], .error (.unsupportedMethod request.method)) := by
  simp [exchange, unsupported]

theorem exchange_of_unbuilt (supported : isMethod request.method = true)
    (headers : areHeaders request.headers = false) :
    exchange network before request = ([], .error (unbuilt.failure request.timeoutMs)) := by
  simp [exchange, supported, headers]

theorem exchange_of_built (supported : isMethod request.method = true)
    (headers : areHeaders request.headers = true) :
    exchange network before request =
      follow network request.maxResponseBytes before maxMoves (messageOf request) := by
  simp [exchange, supported, headers]

theorem Fails.exchange_eq (supported : isMethod request.method = true)
    (fails : Fails network before request phase fault) :
    (exchange network before request).2 = .error (phase.tells request.timeoutMs fault) := by
  cases fails with
  | unbuilt headers => rw [exchange_of_unbuilt supported headers]; rfl
  | broken headers breaks =>
      rw [exchange_of_built supported headers]
      exact breaks.follow_eq

theorem exchange_error_cases (supported : isMethod request.method = true) {failure : Gate.Failure}
    (failed : (exchange network before request).2 = .error failure) :
    failure = .responseTooLarge request.maxResponseBytes ∨
      ∃ phase fault, Fails network before request phase fault := by
  cases headers : areHeaders request.headers with
  | false => exact .inr ⟨.building, unbuilt, .unbuilt headers⟩
  | true =>
      rw [exchange_of_built supported headers] at failed
      refine (follow_error_cases failed).imp_right ?_
      rintro ⟨phase, fault, breaks⟩
      exact ⟨phase, fault, .broken headers breaks⟩

theorem exchange_fst_of_alike (alike : network.Alike other) (before : List Message) (request : Prepared) :
    (exchange other before request).1 = (exchange network before request).1 := by
  unfold exchange
  split
  · rfl
  · split
    · rfl
    · exact follow_fst_of_alike alike _ _ _ _

theorem exchange_of_alike (alike : network.Alike other)
    (whole : ∀ fault, ¬Fails network before request .reading fault) :
    exchange other before request = exchange network before request := by
  cases supported : isMethod request.method with
  | false => rw [exchange_of_unsupported supported, exchange_of_unsupported supported]
  | true =>
      cases headers : areHeaders request.headers with
      | false => rw [exchange_of_unbuilt supported headers, exchange_of_unbuilt supported headers]
      | true =>
          rw [exchange_of_built supported headers, exchange_of_built supported headers]
          exact follow_of_alike alike fun fault breaks => whole fault (.broken headers breaks)

theorem traffic_of_alike (alike : network.Alike other) (before : List Message) (requests : List Prepared) :
    traffic other before requests = traffic network before requests := by
  induction requests generalizing before with
  | nil => rfl
  | cons request requests ih => rw [traffic, traffic, exchange_fst_of_alike alike, ih]

/-- Where no body fails, a gate cannot tell networks apart that differ only in texts. -/
theorem transport_of_alike (alike : network.Alike other)
    (whole : ∀ before request fault, ¬Fails network before request .reading fault) :
    transport other = transport network := by
  simp only [transport, traffic_of_alike alike, exchange_of_alike alike (whole _ _)]

theorem Fails.reworded (fails : Fails network before request .reading fault) (text : String) :
    Fails (network.reworded text) before request .reading { fault with text := text } := by
  cases fails with
  | broken headers breaks => exact .broken headers (breaks.reworded rfl text)

/-- Two texts are told apart by a script. -/
theorem ofReply_http_inj {type : Gate.AnswerType} {text said : String}
    (same : Outcome.ofReply type (.error (.http text)) = Outcome.ofReply type (.error (.http said))) :
    text = said := by
  have shown : ∀ text, Outcome.ofReply type (.error (.http text)) =
      .failed "HttpError" ("http: " ++ text) none := fun _ => rfl
  rw [shown, shown] at same
  exact (String.append_right_inj _).1 (Outcome.failed.inj same).2.1

end Exchange

/-- Before there is an answer, a failure is told by its kind: that the time was up, and otherwise one of two
texts. Of a body that breaks off the text of the client is told, whatever the kind. There are no other
failures, but for answers that are too long. So a script learns nothing of what the client says exactly if
no body breaks off. -/
theorem failures_told (network : Network) (before : List Message) {request : Prepared}
    (supported : isMethod request.method = true) :
    (∀ phase fault, Fails network before request phase fault → phase ≠ .reading →
      (fault.timedOut = true →
        (exchange network before request).2 = .error (.timeout request.timeoutMs)) ∧
      (fault.timedOut = false → (exchange network before request).2 =
        .error (.http (if fault.connecting then "connection failed" else "request failed")))) ∧
    (∀ fault, Fails network before request .reading fault →
      (exchange network before request).2 = .error (.http fault.text)) ∧
    (∀ failure, (exchange network before request).2 = .error failure →
      failure = .responseTooLarge request.maxResponseBytes ∨
        ∃ phase fault, Fails network before request phase fault) ∧
    ((∀ other, network.Alike other → ∀ type,
      Outcome.ofReply type (exchange other before request).2 =
        Outcome.ofReply type (exchange network before request).2) ↔
      ∀ fault, ¬Fails network before request .reading fault) ∧
    ((∀ before request fault, ¬Fails network before request .reading fault) →
      ∀ other, network.Alike other → transport other = transport network) := by
  have told : ∀ {network : Network} {phase fault}, Fails network before request phase fault →
      (exchange network before request).2 = .error (phase.tells request.timeoutMs fault) :=
    fun fails => fails.exchange_eq supported
  refine ⟨?_, fun fault fails => told fails, fun failure => exchange_error_cases supported, ?_,
    fun whole other alike => transport_of_alike alike whole⟩
  · intro phase fault fails early
    have kind : phase.tells request.timeoutMs fault = fault.failure request.timeoutMs := by
      cases phase with
      | building | sending => rfl
      | reading => exact absurd rfl early
    rw [told fails, kind, Fault.failure]
    constructor
    · intro late
      rw [if_pos late]
    · intro inTime
      rw [if_neg (by simp [inTime])]
  · constructor
    · intro same fault fails
      -- If it made no difference, the text would be the same as a longer one.
      have longer := same _ (network.alike_reworded (fault.text ++ ".")) .text
      rw [told fails, told (fails.reworded _)] at longer
      have length := congrArg String.length (ofReply_http_inj longer)
      simp at length
    · intro whole other alike type
      rw [exchange_of_alike alike whole]

def stalling (text : String) : Network :=
  ⟨fun _ _ => .answered 200 [] [[0x6C]] (some ⟨true, false, text⟩)⟩

def plainGet : Prepared := ⟨"GET", "https://a.b/", [], none, 500, 2000000⟩

theorem fails_stalling (text : String) :
    Fails (stalling text) [] plainGet .reading ⟨true, false, text⟩ :=
  .broken rfl (.cut maxMoves rfl (by decide))

theorem alike_stalling (text said : String) : (stalling text).Alike (stalling said) :=
  fun _ _ => .broken 200 [] [[0x6C]] ⟨rfl, rfl⟩

/-- Nobody is reached in time, and then the answer stalls. -/
theorem failures_told_late :
    let late : Network := ⟨fun _ _ => .timedOut⟩
    (exchange late [] plainGet).2 = .error (.timeout 500) ∧
      (exchange (stalling "operation timed out") [] plainGet).2 = .error (.http "operation timed out") ∧
      ¬∀ other, (stalling "operation timed out").Alike other → ∀ type,
        Outcome.ofReply type (exchange other [] plainGet).2 =
          Outcome.ofReply type (exchange (stalling "operation timed out") [] plainGet).2 := by
  intro late
  have supported : isMethod plainGet.method = true := by decide
  have unanswered : Fails late [] plainGet .sending ⟨true, false, "error sending request"⟩ :=
    .broken rfl (.unanswered maxMoves rfl)
  obtain ⟨early, -⟩ := failures_told late [] supported
  obtain ⟨-, told, -, same, -⟩ := failures_told (stalling "operation timed out") [] supported
  refine ⟨(early _ _ unanswered (by decide)).1 rfl, told _ (fails_stalling _), fun all => ?_⟩
  exact same.1 all _ (fails_stalling _)

/-- The time is up while an answer is read. It is not told so, but in words of the client. -/
theorem stalled_body_told :
    let network := stalling "error decoding response body"
    let fault : Fault := ⟨true, false, "error decoding response body"⟩
    isMethod plainGet.method = true ∧ Fails network [] plainGet .reading fault ∧ fault.timedOut = true ∧
      (exchange network [] plainGet).2 = .error (.http fault.text) ∧
      (exchange network [] plainGet).2 ≠ .error (.timeout plainGet.timeoutMs) ∧
      network.Alike (stalling "operation timed out") ∧
      Outcome.ofReply .text (exchange (stalling "operation timed out") [] plainGet).2 ≠
        Outcome.ofReply .text (exchange network [] plainGet).2 := by
  intro network fault
  have supported : isMethod plainGet.method = true := by decide
  have told : ∀ text, (exchange (stalling text) [] plainGet).2 = .error (.http text) :=
    fun text => (fails_stalling text).exchange_eq supported
  refine ⟨supported, fails_stalling _, rfl, told _, ?_, alike_stalling _ _, fun same => ?_⟩
  · rw [told]
    simp
  · rw [told, told] at same
    exact absurd (ofReply_http_inj same) (by decide)

end Client

end ScriptOracle.Net
