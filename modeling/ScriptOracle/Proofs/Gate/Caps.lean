import Mathlib.Data.List.Forall2
import ScriptOracle.Proofs.Gate.Answers

/-!
# What is handed over

The time limit is checked before a request counts, the body and the scheme of the address after it has, and
the cap on the answer goes along with the request. `Conforms` says what all of this comes to, and `conforms_after`
that nothing reaches the transport by another way: what it is handed are the requests of counted calls, one
for each call that hands one over, in the order of the calls.
-/

namespace ScriptOracle.Gate

/-- Whether a text is the address of a web page: what stands before the first colon is one of two names. -/
def IsWeb (text : String) : Prop :=
  ∃ rest, text.toList = "http".toList ++ ':' :: rest ∨ text.toList = "https".toList ++ ':' :: rest

/-- A request that is handed over for a call: what it takes from the call, and the caps that it keeps. -/
structure Conforms (limits : Limits) (call : Call) (request : Prepared) : Prop where
  method : request.method = Text.upperCase call.method
  address : ∃ url, call.address = .ok url ∧ request.url = url.text
  web : IsWeb request.url
  headers : request.headers = call.headers
  body : request.body = call.bodyBytes?
  bodyFits : ∀ bytes ∈ request.body, bytes.length ≤ limits.maxRequestBytes
  timeout : request.timeoutMs = call.timeoutMs
  timeoutFits : request.timeoutMs ≤ limits.maxTimeoutMs
  answer : request.maxResponseBytes = limits.maxResponseBytes

def Visit.handsOver (visit : Visit) : Bool :=
  decide (visit.met.sent.length < visit.left.sent.length)

variable {transport : Transport} {gate left : Gate} {ask : Ask} {outcome : Outcome}

/-! ## One request -/

theorem checkBody_eq_ok_iff {limits : Limits} {body : Option Bytes} :
    checkBody limits body = .ok () ↔ ∀ bytes ∈ body, bytes.length ≤ limits.maxRequestBytes := by
  cases body with
  | none => simp [checkBody]
  | some bytes =>
      simp only [checkBody, Option.mem_some_iff, forall_eq']
      split
      next long => exact ⟨nofun, fun short => absurd long (Nat.not_lt.2 short)⟩
      next short => exact ⟨fun _ => Nat.not_lt.1 short, fun _ => rfl⟩

theorem isWeb_text {url : Url} (web : url.scheme = "http" ∨ url.scheme = "https") :
    IsWeb url.text := by
  have front : ∃ rest, url.text.toList = url.scheme.toList ++ ':' :: rest := by
    rw [Url.text, Url.base, String.toList_ofList]
    simp only [List.append_assoc, List.cons_append]
    exact ⟨_, rfl⟩
  obtain ⟨rest, text⟩ := front
  rcases web with scheme | scheme
  · exact ⟨rest, .inl (by rw [text, scheme])⟩
  · exact ⟨rest, .inr (by rw [text, scheme])⟩

theorem isWeb_of_address {call : Call} {url : Url} (located : call.address = .ok url) :
    IsWeb url.text := by
  unfold Call.address at located
  split at located
  next => cases located
  next bare _ =>
    split at located
    next web =>
      cases located
      -- Parameters go behind the path, whatever they are, and leave the scheme alone.
      split
      next => exact isWeb_text web
      next =>
        have kept : (bare.appendPairs call.paramPairs).scheme = bare.scheme := rfl
        exact isWeb_text (kept ▸ web)
    next => cases located

theorem timeoutMs_le_of_vet {call : Call} (vetted : gate.vet call = .ok ()) :
    call.timeoutMs ≤ gate.limits.maxTimeoutMs := by
  have clear := (vet_eq_ok_iff.mp vetted).1
  apply Nat.not_lt.1
  intro slow
  simp [objections, slow] at clear

theorem conforms_of_prepare {call : Call} {request : Prepared} (vetted : gate.vet call = .ok ())
    (prepared : prepare gate.limits call = .ok request) : Conforms gate.limits call request := by
  obtain ⟨checked, url, found, rfl⟩ := prepare_eq_ok prepared
  exact {
    method := rfl
    address := ⟨url, found, rfl⟩
    web := isWeb_of_address found
    headers := rfl
    body := rfl
    bodyFits := checkBody_eq_ok_iff.1 checked
    timeout := rfl
    timeoutFits := timeoutMs_le_of_vet vetted
    answer := rfl }

/-- A visit hands nothing over, or else the request of a call that it counts. -/
theorem Served.conforms (way : Served transport gate ask outcome left) :
    left.sent = gate.sent ∨
      ∃ call request, ask = .request call ∧ left.sent = gate.sent ++ [request] ∧
        gate.used < left.used ∧ Conforms gate.limits call request := by
  cases way with
  | refused | turnedAway | unprepared => exact .inl rfl
  | handedOver call request vetted prepared =>
      exact .inr ⟨call, request, rfl, rfl, Nat.lt_succ_self _, conforms_of_prepare vetted prepared⟩

/-! ## Runs -/

/-- What a run hands over, visit by visit. -/
theorem conforms_after (transport : Transport) (gate : Gate) (events : List Event) :
    ∃ added, (gate.after transport events).sent = gate.sent ++ added ∧
      List.Forall₂
        (fun visit request => visit.isCounted ∧
          ∃ call, visit.ask = .request call ∧ Conforms gate.limits call request)
        ((gate.visits transport events).filter Visit.handsOver) added := by
  induction events generalizing gate with
  | nil => exact ⟨[], (List.append_nil _).symm, .nil⟩
  | cons event events ih =>
      cases event with
      | abort => exact ih gate.abort
      | ask ask =>
          have way := served transport gate ask
          obtain ⟨added, sent, conform⟩ := ih (visit transport gate ask).left
          rw [way.limits_eq] at conform
          rw [after, visits, List.filter_cons]
          rcases way.conforms with kept | ⟨call, request, asked, more, counted, conforms⟩
          · have nothing : (visit transport gate ask).handsOver = false := by
              simp [Visit.handsOver, kept]
            rw [nothing, sent, kept]
            exact ⟨added, rfl, conform⟩
          · have something : (visit transport gate ask).handsOver = true := by
              simp [Visit.handsOver, more]
            rw [something, sent, more, List.append_assoc]
            exact ⟨request :: added, rfl, .cons ⟨decide_eq_true counted, call, asked, conforms⟩ conform⟩

/-! ## Answers from a table -/

/-- An answer from a table that a script gets to see is within the cap. -/
theorem Served.answered_fixed {usual : Except Failure Reply} {routes : List Route} {answer : Answer}
    (way : Served (.fixed usual routes) gate ask (.answered answer) left) :
    ∃ call request reply, ask = .request call ∧ left.sent = gate.sent ++ [request] ∧
      routed usual routes request.url = .ok reply ∧
      reply.body.length ≤ gate.limits.maxResponseBytes ∧
      answer = ⟨reply.status, reply.headers, .read reply.body call.answerType⟩ := by
  obtain ⟨call, request, reply, asked, more, prepared, sent, _, same⟩ := way.answered
  obtain ⟨_, chosen, within⟩ := exists_of_bind_eq_ok sent
  obtain ⟨_, _, _, rfl⟩ := prepare_eq_ok prepared
  unfold capped at within
  split at within
  next short =>
    cases within
    exact ⟨call, _, reply, asked, more, chosen, short, same⟩
  next => cases within

/-- Everything that reaches the transport at any point of any run is the request of a counted call and within
the caps, in the order of the calls; and of what a table answers, a script sees nothing beyond the cap. -/
theorem requests_conform (quota : Nat) (limits : Limits) (events : List Event) :
    (∀ transport : Transport,
      List.Forall₂
        (fun visit request => visit.isCounted ∧
          ∃ call, visit.ask = .request call ∧ Conforms limits call request)
        (((fresh quota limits).visits transport events).filter Visit.handsOver)
        ((fresh quota limits).after transport events).sent) ∧
    ∀ usual routes, ∀ visit ∈ (fresh quota limits).visits (.fixed usual routes) events, ∀ answer,
      visit.outcome = .answered answer →
      ∃ call request reply, visit.ask = .request call ∧
        visit.left.sent = visit.met.sent ++ [request] ∧
        routed usual routes request.url = .ok reply ∧
        reply.body.length ≤ limits.maxResponseBytes ∧
        answer = ⟨reply.status, reply.headers, .read reply.body call.answerType⟩ := by
  constructor
  · intro transport
    obtain ⟨added, sent, conform⟩ := conforms_after transport (fresh quota limits) events
    rw [sent]
    exact conform
  · intro usual routes visit member answer answered
    obtain ⟨i, inside, rfl⟩ := List.getElem_of_mem member
    obtain ⟨earlier, ask, rest, _, _, found⟩ := getElem_visits _ inside
    rw [found] at answered ⊢
    have way := served (.fixed usual routes)
      ((fresh quota limits).after (.fixed usual routes) earlier) ask
    rw [answered] at way
    have table := way.answered_fixed
    rwa [limits_after] at table

end ScriptOracle.Gate
