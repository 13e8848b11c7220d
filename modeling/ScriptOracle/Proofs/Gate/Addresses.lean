import ScriptOracle.Proofs.Gate.History
import ScriptOracle.Proofs.Url.Length

/-!
# Addresses behind the gate

The cap on addresses is held against what the script wrote. What is handed over is that address as it was
read, with the parameters behind its query, and its length is known exactly: reading may change it, and
each parameter adds what it costs. The cap is kept where both together make nothing longer; parameters
alone pass any bound.
-/

namespace ScriptOracle.Gate

/-- What a request that was handed over has to do with the call that asked for it. -/
structure Addressed (limits : Limits) (call : Call) (bare : Url) (request : Prepared) : Prop where
  checked : Text.byteCount call.url ≤ limits.maxUrlLength
  read : Url.read call.url = .ok bare
  web : bare.scheme = "http" ∨ bare.scheme = "https"
  /-- A query that is there and empty has a mark already that the first parameter can use. -/
  length : Text.byteCount request.url +
      (if call.params ≠ [] ∧ bare.query = some [] then 1 else 0) =
    Text.byteCount bare.text + Form.cost call.paramPairs

variable {transport : Transport} {gate left : Gate} {ask : Ask} {outcome : Outcome}

/-! ## One request -/

theorem byteCount_address {call : Call} {url : Url} (located : call.address = .ok url) :
    ∃ bare, Url.read call.url = .ok bare ∧ (bare.scheme = "http" ∨ bare.scheme = "https") ∧
      Text.byteCount url.text + (if call.params ≠ [] ∧ bare.query = some [] then 1 else 0) =
        Text.byteCount bare.text + Form.cost call.paramPairs := by
  unfold Call.address at located
  split at located
  next => cases located
  next bare read =>
    split at located
    next web =>
      cases located
      refine ⟨bare, read, web, ?_⟩
      by_cases plain : call.params = []
      · simp [plain, Call.paramPairs]
      · have given : call.paramPairs ≠ [] := by simpa [Call.paramPairs] using plain
        simpa [plain] using Url.byteCount_appendPairs bare given
    next => cases located

theorem url_of_prepare {limits : Limits} {call : Call} {request : Prepared}
    (prepared : prepare limits call = .ok request) :
    ∃ url, call.address = .ok url ∧ request.url = url.text := by
  obtain ⟨_, url, located, rfl⟩ := prepare_eq_ok prepared
  exact ⟨url, located, rfl⟩

theorem byteCount_url_of_vet {call : Call} (vetted : gate.vet call = .ok ()) :
    Text.byteCount call.url ≤ gate.limits.maxUrlLength := by
  have clear := (vet_eq_ok_iff.mp vetted).1
  apply Nat.not_lt.1
  intro long
  simp [objections, long] at clear

theorem addressed_of_prepare {call : Call} {request : Prepared} (vetted : gate.vet call = .ok ())
    (prepared : prepare gate.limits call = .ok request) :
    ∃ bare, Addressed gate.limits call bare request := by
  obtain ⟨url, located, same⟩ := url_of_prepare prepared
  obtain ⟨bare, read, web, length⟩ := byteCount_address located
  exact ⟨bare, byteCount_url_of_vet vetted, read, web, same ▸ length⟩

/-- An ask hands over at most one request more, and that one is addressed as it asked. -/
theorem Served.addressed (way : Served transport gate ask outcome left) {request : Prepared}
    (sent : request ∈ left.sent) :
    request ∈ gate.sent ∨
      ∃ call bare, ask = .request call ∧ Addressed gate.limits call bare request := by
  cases way with
  | refused | turnedAway | unprepared => exact .inl sent
  | handedOver call last vetted prepared =>
      rcases List.mem_append.1 sent with before | now
      · exact .inl before
      · obtain rfl := List.mem_singleton.1 now
        obtain ⟨bare, addressed⟩ := addressed_of_prepare vetted prepared
        exact .inr ⟨call, bare, rfl, addressed⟩

/-- What is prepared for an admitted call is handed over. -/
theorem mem_sent_of_prepare {call : Call} {request : Prepared} (vetted : gate.vet call = .ok ())
    (prepared : prepare gate.limits call = .ok request) :
    request ∈ (visit transport gate (.request call)).left.sent := by
  simp only [visit, serve, perform, vetted, carryOut, prepared, dispatch, record_sent]
  exact List.mem_append_right _ (.head _)

/-! ## Runs -/

theorem addressed_after (transport : Transport) (gate : Gate) (events : List Event)
    {request : Prepared} (sent : request ∈ (gate.after transport events).sent) :
    request ∈ gate.sent ∨
      ∃ call bare, .ask (.request call) ∈ events ∧ Addressed gate.limits call bare request := by
  induction events generalizing gate with
  | nil => exact .inl sent
  | cons event events ih =>
      cases event with
      | abort =>
          exact (ih gate.abort sent).imp_right fun ⟨call, bare, asked, addressed⟩ =>
            ⟨call, bare, .tail _ asked, addressed⟩
      | ask ask =>
          have way := served transport gate ask
          rcases ih _ sent with before | ⟨call, bare, asked, addressed⟩
          · rcases way.addressed before with earlier | ⟨call, bare, rfl, addressed⟩
            · exact .inl earlier
            · exact .inr ⟨call, bare, .head _, addressed⟩
          · rw [way.limits_eq] at addressed
            exact .inr ⟨call, bare, .tail _ asked, addressed⟩

/-- What a script spends on parameters is in the address, whatever the cap says. -/
theorem Addressed.content_le {limits : Limits} {call : Call} {bare : Url} {request : Prepared}
    (addressed : Addressed limits call bare request) :
    (call.paramPairs.map fun pair => Text.byteCount pair.1 + Text.byteCount pair.2).sum ≤
      Text.byteCount request.url := by
  have length := addressed.length
  have content := Form.content_le_cost call.paramPairs
  split at length
  next both =>
    have some : 0 < call.paramPairs.length := by
      rw [Call.paramPairs, List.length_map]
      exact List.length_pos_iff.2 both.1
    omega
  next => omega

/-- The addresses that are handed over at any point of any run. Each is as long as the address that was
read and its parameters together, and within the cap when they are no longer than what was checked. -/
theorem addresses_handed_over (transport : Transport) (quota : Nat) (limits : Limits)
    (events : List Event) :
    ∀ request ∈ ((fresh quota limits).after transport events).sent,
      ∃ call bare, .ask (.request call) ∈ events ∧ Addressed limits call bare request ∧
        (call.paramPairs.map fun pair => Text.byteCount pair.1 + Text.byteCount pair.2).sum ≤
          Text.byteCount request.url ∧
        (Text.byteCount bare.text + Form.cost call.paramPairs ≤ Text.byteCount call.url →
          Text.byteCount request.url ≤ limits.maxUrlLength) := by
  intro request sent
  rcases addressed_after transport (fresh quota limits) events sent with
    before | ⟨call, bare, asked, addressed⟩
  · cases before
  · refine ⟨call, bare, asked, addressed, addressed.content_le, fun shorter => ?_⟩
    have checked : Text.byteCount call.url ≤ limits.maxUrlLength := addressed.checked
    have length := addressed.length
    omega

/-- A parameter is behind the query of the address that is handed over. -/
theorem addresses_handed_over_parameter :
    let call := { Call.get "https://a.b/" with params := [("q", .string "x")] }
    ∃ request ∈ ((fresh 1 .usual).after (.fixed (.ok ⟨200, [], []⟩) [])
        [.ask (.request call)]).sent,
      request.url = "https://a.b/?q=x" ∧ ∃ call bare, Addressed .usual call bare request := by
  intro call
  have urls : ((fresh 1 .usual).after (.fixed (.ok ⟨200, [], []⟩) [])
      [.ask (.request call)]).sent.map (·.url) = ["https://a.b/?q=x"] := by decide +kernel
  obtain ⟨request, sent, url⟩ := List.mem_map.1 (urls ▸ List.mem_singleton_self "https://a.b/?q=x")
  obtain ⟨call, bare, -, addressed, -⟩ := addresses_handed_over _ _ _ _ request sent
  exact ⟨request, sent, url, call, bare, addressed⟩

/-! ## Past every bound -/

/-- A call for a short address with one parameter of some length. -/
def padded (count : Nat) : Call :=
  { Call.get "https://a.b/" with params := [("q", .string (String.ofList (List.replicate count 'x')))] }

theorem address_padded (count : Nat) : ∃ url, (padded count).address = .ok url := by
  have read : Url.read "https://a.b/" = .ok
      ⟨"https", [], [], some (.name "a.b"), none, .rooted [[]], none, none⟩ := by
    rfl
  rw [Call.address, show (padded count).url = "https://a.b/" from rfl, read]
  exact ⟨_, rfl⟩

theorem content_padded (count : Nat) :
    ((padded count).paramPairs.map fun pair =>
      Text.byteCount pair.1 + Text.byteCount pair.2).sum = count + 1 := by
  show Text.byteCount "q" + Text.byteCount (String.ofList (List.replicate count 'x')) + 0 = _
  rw [show Text.byteCount "q" = 1 by decide, Text.byteCount_ofList, List.map_replicate,
    List.sum_replicate_nat, show 'x'.utf8Size = 1 from rfl]
  omega

/-- However long an address is to be, a call that the cap lets through is handed over with a longer
one. -/
theorem exists_sent_longer (transport : Transport) {quota : Nat} {limits : Limits} (count : Nat)
    (spare : 0 < quota) (time : Call.defaultTimeoutMs ≤ limits.maxTimeoutMs)
    (room : 12 ≤ limits.maxUrlLength) :
    ∃ request ∈ ((fresh quota limits).after transport [.ask (.request (padded count))]).sent,
      count < Text.byteCount request.url := by
  have vetted : (fresh quota limits).vet (padded count) = .ok () := by
    refine vet_eq_ok_iff.2 ⟨?_, spare⟩
    have short : ¬limits.maxUrlLength < Text.byteCount (padded count).url :=
      Nat.not_lt.2 (Nat.le_trans (by decide : Text.byteCount "https://a.b/" ≤ 12) room)
    have soon : ¬limits.maxTimeoutMs < (padded count).timeoutMs := Nat.not_lt.2 time
    simp [objections, fresh, short, soon]
  obtain ⟨url, located⟩ := address_padded count
  obtain ⟨request, prepared⟩ : ∃ request, prepare limits (padded count) = .ok request := by
    rw [prepare, located]
    exact ⟨_, rfl⟩
  obtain ⟨bare, addressed⟩ := addressed_of_prepare vetted prepared
  have content := addressed.content_le
  rw [content_padded] at content
  exact ⟨request, mem_sent_of_prepare vetted prepared, content⟩

/-- The usual cap lets a call through whose address is longer than the cap when it is handed over. -/
theorem overlong_address_handed_over :
    Text.byteCount (padded 2048).url ≤ Limits.usual.maxUrlLength ∧
      ∃ request ∈ ((fresh 1 .usual).after (.fixed (.ok ⟨200, [], []⟩) [])
        [.ask (.request (padded 2048))]).sent,
        Limits.usual.maxUrlLength < Text.byteCount request.url :=
  ⟨by decide, exists_sent_longer _ 2048 (by decide) (by decide) (by decide)⟩

end ScriptOracle.Gate
