import ScriptOracle.Gate.Call
import ScriptOracle.Proofs.Json.Record
import ScriptOracle.Proofs.Url.Form

/-!
# Parameters behind a query

The parameters of a request go behind the query of its address. A reader of the query finds the pairs that
were there and then one for each parameter, whatever characters either are made of, and the address is
otherwise what it was.
-/

namespace ScriptOracle.Gate.Call

/-- The parameters of a request that was read are in order. -/
theorem ascending_params_of_read {data : Json} {call : Call} (done : read data = .ok call) :
    call.params.Ascending := by
  let Sound (draft : Draft) : Prop := ∀ params ∈ draft.params, Fields.Ascending params
  have fills : ∀ slot ∈ type.slots, ∀ draft value next,
      Sound draft → slot.fill draft value = .ok next → Sound next := by
    simp only [type, slots, List.forall_mem_cons, List.not_mem_nil, false_implies, implies_true, and_true]
    refine ⟨?_, ?_, ?_, ?params, ?_, ?_, ?_⟩
    case params =>
      intro draft value next _ filled
      obtain ⟨params, taken, finished⟩ := exists_of_bind_eq_ok filled
      obtain ⟨given, -, rfl⟩ := Json.readFields_eq_ok_iff.1 taken
      cases finished
      rintro _ ⟨⟩
      exact Fields.ascending_sorted given
    all_goals
      intro draft value next sound filled
      obtain ⟨part, -, finished⟩ := exists_of_bind_eq_ok filled
      cases finished
      exact sound
  obtain ⟨draft, sound, finished⟩ := Json.RecordType.exists_sound_of_read (nofun : Sound .blank) fills done
  change draft.finish = .ok call at finished
  rw [Draft.finish] at finished
  split at finished
  · cases finished
  · cases finished
    cases given : draft.params with
    | none => exact List.Pairwise.nil
    | some params => exact sound params given

variable {call : Call} {bare : Url}

theorem address_of_web (found : Url.read call.url = .ok bare)
    (web : bare.scheme = "http" ∨ bare.scheme = "https") :
    call.address = .ok (if call.params.isEmpty then bare else bare.appendPairs call.paramPairs) := by
  rw [address, found]
  exact if_pos web

theorem address_of_not_web (found : Url.read call.url = .ok bare)
    (other : ¬(bare.scheme = "http" ∨ bare.scheme = "https")) :
    call.address = .error (.invalidRequest s!"unsupported protocol {bare.scheme}:") := by
  rw [address, found]
  exact if_neg other

theorem address_of_error {fault : Url.Fault} (failed : Url.read call.url = .error fault) :
    call.address = .error (.invalidRequest s!"url: {fault.message}") := by
  rw [address, failed]

/-- A web address is kept but for its query, and behind the pairs of the query there is a pair for each
parameter, in the order of their names. Without parameters nothing changes. Other addresses, and texts that
are none, are refused. -/
theorem params_merged (ordered : call.params.Ascending) :
    (∀ bare, Url.read call.url = .ok bare → bare.scheme = "http" ∨ bare.scheme = "https" →
      ∃ url added, call.address = .ok url ∧ url = { bare with query := url.query } ∧
        url.pairs = bare.pairs ++ added ∧ (added.map Prod.fst).Pairwise (· < ·) ∧
        added = call.params.map (fun param => (param.1, param.2.scalarText)) ∧
        (call.params = [] → url = bare)) ∧
    (∀ bare, Url.read call.url = .ok bare → ¬(bare.scheme = "http" ∨ bare.scheme = "https") →
      ∃ reason, call.address = .error (.invalidRequest reason)) ∧
    ∀ fault, Url.read call.url = .error fault →
      ∃ reason, call.address = .error (.invalidRequest reason) := by
  refine ⟨fun bare found web => ?merged, fun bare found other => ⟨_, address_of_not_web found other⟩,
    fun fault failed => ⟨_, address_of_error failed⟩⟩
  have names : call.paramPairs.map Prod.fst = Fields.names call.params := by
    rw [paramPairs, List.map_map]
    rfl
  refine ⟨_, call.paramPairs, address_of_web found web, ?_⟩
  by_cases plain : call.params = []
  · rw [if_pos (List.isEmpty_iff.2 plain), paramPairs, plain]
    exact ⟨rfl, (List.append_nil _).symm, List.Pairwise.nil, rfl, fun _ => rfl⟩
  · rw [if_neg (mt List.isEmpty_iff.1 plain)]
    exact ⟨rfl, Url.pairs_appendPairs bare _, names ▸ ordered, rfl, fun none => absurd none plain⟩

/-- Parameters that are given in another order, with marks in them, behind a query with an empty piece. -/
theorem params_merged_marks :
    let data : Json := .object [("url", .string "http://a.b?x=1&&y%26=+#f"),
      ("params", .object [("ü", .array [.string "#"]), ("&", .string "=+%"), ("", .null)])]
    ∃ call url, read data = .ok call ∧ call.params.Ascending ∧ call.address = .ok url ∧
      url.fragment = some ['f'] ∧
      url.pairs = [("x", "1"), ("y&", " "), ("", ""), ("&", "=+%"), ("ü", "[\"#\"]")] := by
  intro data
  let call : Call := { Call.get "http://a.b?x=1&&y%26=+#f" with
    params := [("", .null), ("&", .string "=+%"), ("ü", .array [.string "#"])] }
  let bare : Url :=
    ⟨"http", [], [], some (.name "a.b"), none, .rooted [[]], some "x=1&&y%26=+".toList, some ['f']⟩
  have done : read data = .ok call := rfl
  have found : Url.read "http://a.b?x=1&&y%26=+#f" = .ok bare := rfl
  have before : bare.pairs = [("x", "1"), ("y&", " ")] := by decide +kernel
  have ordered : call.params.Ascending := ascending_params_of_read done
  obtain ⟨merges, -, -⟩ := params_merged ordered
  obtain ⟨url, added, located, kept, pairs, -, rfl, -⟩ := merges bare found (.inl rfl)
  refine ⟨call, url, done, ordered, located, by rw [kept], ?_⟩
  rw [pairs, before]
  rfl

end ScriptOracle.Gate.Call
