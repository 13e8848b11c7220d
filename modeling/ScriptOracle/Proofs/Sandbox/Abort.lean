import ScriptOracle.Proofs.Gate.Abort
import ScriptOracle.Proofs.Sandbox.Course

/-!
# Runs that the host gives up on

Whatever comes of a run, its gate has gone through the events of its transcript, so that all that is known
of a gate after the host has given up holds of every run. A host that has given up before the scratch
directory is held spares itself the script.
-/

namespace ScriptOracle.Sandbox

open Script
open Gate (Ask Desk Event LogEntry Move Transport)

/-- A run that the host gave up on before it started. -/
structure Abandoned (runner : Runner) (host : Host) (disk : Disk) (request : Request) : Prop where
  verdict : (runner.evaluate host disk request).1.verdict =
    .failed (.runtime ⟨"AbortedError", "run abandoned before it started",
      "AbortedError: run abandoned before it started"⟩ [])
  /-- No act of a script was carried out. -/
  silent : (runner.transcript host request).acts = []
  sent : (runner.evaluate host disk request).1.sent = []
  lines : (runner.evaluate host disk request).1.lines = []
  states : (runner.evaluate host disk request).1.states = [.preparing, .failed, .idle]
  state : (runner.evaluate host disk request).2.1.state = .idle
  lastOutcome : (runner.evaluate host disk request).2.1.lastOutcome = some .failed

theorem abandoned_of_hasAborted {host : Host} (aborted : host.hasAborted = true) (runner : Runner)
    (disk : Disk) (request : Request) : Abandoned runner host disk request := by
  have nothing : runner.attempt host request =
      ([], (Machine.start (.fresh request.quota runner.gateLimits), .failed .abandoned)) := by
    rw [Runner.attempt, if_pos aborted]
  constructor
  case silent => simp [Runner.transcript, aborted, Transcript.acts]
  all_goals simp only [Runner.evaluate, nothing]
  all_goals rfl

/-- What the host can rely on once it has given up. Calls that come later are turned away, at a gate that
anything may have happened to, and at the gate of every run. Of the calls on their way at most one is still
handed over, and it had looked before. A run that has not started does not start. -/
theorem abort_safe (transport : Transport) (quota : Nat) (limits : Gate.Limits) (runner : Runner)
    (host : Host) (disk : Disk) (request : Request) :
    (∀ (earlier later : List Event) (call : Gate.Call),
      .abort ∈ earlier ∨
        transport.Interrupted ((Gate.fresh quota limits).after transport earlier).sent →
      let met := (Gate.fresh quota limits).after transport (earlier ++ later)
      met.perform transport call =
        (.failed "RunAborted" "run was abandoned by the host" none,
          { met with
            log := met.log ++
              [⟨call.url, Text.upperCase call.method, false, none, some "RunAborted"⟩] })) ∧
    (runner.attempt host request).2.1.gate =
      (Gate.fresh request.quota runner.gateLimits).after host.transport
        (runner.events host request) ∧
    (∀ (before later : List Move) (met final : Desk),
      Desk.run? transport ⟨.fresh quota limits, .idle⟩ before = some met →
      met.gate.aborted = true → met.run? transport later = some final →
      ∃ more, final.gate.sent = met.gate.sent ++ more ∧ more.length ≤ 1 ∧
        ∀ sent ∈ more, ∃ earlier call between found,
          before = earlier ++ .start (.request call) :: between ∧
          Desk.run? transport ⟨.fresh quota limits, .idle⟩ earlier = some found ∧
          found.gate.aborted = false ∧ Gate.prepare limits call = .ok sent) ∧
    (∀ (moves : List Move) (final : Desk),
      Desk.run? transport ⟨.fresh quota limits, .idle⟩ moves = some final → final.stage = .idle →
      ∃ events, events.filterMap Event.ask? = moves.filterMap Move.ask? ∧
        final.gate = (Gate.fresh quota limits).after transport events) ∧
    (∀ (gate : Gate) (ask : Ask), ∃ count,
      Desk.run? transport ⟨gate, .idle⟩ (.start ask :: List.replicate count .proceed) =
        some ⟨(Gate.serve transport gate ask).2, .idle⟩) ∧
    (host.hasAborted = true → Abandoned runner host disk request) := by
  refine ⟨?later, Runner.gate_attempt runner host request, ?onTheWay, ?undivided,
    Desk.run_undivided transport, ?abandoned⟩
  case later =>
    intro earlier later call raised
    exact Gate.perform_after_abort transport quota limits earlier later raised call
  case onTheWay =>
    intro before later met final first raised second
    exact Desk.sent_after_abort first raised second
  case undivided =>
    intro moves final ran idle
    exact Desk.undivided_of_run ran idle
  case abandoned =>
    intro aborted
    exact abandoned_of_hasAborted aborted runner disk request

/-- A call has been counted and is about to be handed over when the host gives up. -/
def overtaken : List Move := [.start (.request (.get "https://a.b/")), .proceed, .abort]

/-- The call that was overtaken still arrives, and whatever happens next, no other does. -/
theorem abort_safe_overtaken :
    let transport := Transport.fixed (.ok (.ofJson 200 (.object []))) []
    let start : Desk := ⟨.fresh 2 .usual, .idle⟩
    ((start.run? transport overtaken).map fun met => (met.gate.aborted, met.gate.sent.length)) =
      some (true, 0) ∧
    ((start.run? transport (overtaken ++ [.proceed])).map (·.gate.sent.length)) = some 1 ∧
    ∀ met later final, start.run? transport overtaken = some met →
      met.run? transport later = some final → final.gate.sent.length ≤ 1 := by
  intro transport start
  have overtakes : ((start.run? transport overtaken).map fun met =>
      (met.gate.aborted, met.gate.sent.length)) = some (true, 0) := by decide +kernel
  refine ⟨overtakes, by decide +kernel, fun met later final first second => ?_⟩
  rw [first, Option.map_some, Option.some.injEq, Prod.mk.injEq] at overtakes
  have safe := abort_safe transport 2 .usual (.start ⟨["scratch"], true⟩) (.patient transport) .blank
    ⟨"return 1;", [], none, 0⟩
  obtain ⟨more, grown, few, _⟩ := safe.2.2.1 overtaken later met final first overtakes.1 second
  rw [grown, List.length_append, overtakes.2, Nat.zero_add]
  exact few

end ScriptOracle.Sandbox
