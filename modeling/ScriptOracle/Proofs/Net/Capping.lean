import Mathlib.Algebra.Group.Nat.Defs
import ScriptOracle.Proofs.Net.Failures

/-!
# The cap on answers

A table of answers compares a length with the cap. The client reads one byte more than it may keep and looks
whether that byte came. Both come to the same, but for the greatest cap: one more than that is no byte at
all, so that nothing is read and every answer seems to be empty.
-/

namespace ScriptOracle.Net.Client

open Gate (Prepared Reply Transport)

/-! ## Answers -/

/-- The answer to a message, or to the last of those that it is sent on by. -/
inductive Answered (network : Network) (status : Nat) (headers : List (String × Bytes))
    (pieces : List Bytes) (broken : Option Fault) : List Message -> Nat -> Message -> Prop where
  | here {before : List Message} {message : Message} (moves : Nat)
      (answer : network.deliver before message = .answered status headers pieces broken) :
      Answered network status headers pieces broken before moves message
  | onward {before : List Message} {moves code : Nat} {message : Message} {url : String}
      (answer : network.deliver before message = .moved code url)
      (behind : Answered network status headers pieces broken (before ++ [message]) moves
        (movedTo message code url)) :
      Answered network status headers pieces broken before (moves + 1) message

section Body

variable {network : Network} {maximum status : Nat} {headers : List (String × Bytes)}
  {pieces others : List Bytes} {broken other : Option Fault} {before : List Message} {moves : Nat}
  {message : Message}

theorem Answered.follow_eq (answered : Answered network status headers pieces broken before moves message)
    (maximum : Nat) :
    (follow network maximum before moves message).2 = reply maximum status headers pieces broken := by
  induction answered with
  | here moves answer => rw [follow_of_answered answer]
  | onward answer _ ih =>
      rw [follow_of_moved_succ answer]
      exact ih

theorem Answered.exchange_eq {request : Prepared} (supported : isMethod request.method = true)
    (sendable : areHeaders request.headers = true)
    (answered : Answered network status headers pieces broken before maxMoves (messageOf request)) :
    (exchange network before request).2 =
      reply request.maxResponseBytes status headers pieces broken := by
  rw [exchange_of_built supported sendable]
  exact answered.follow_eq _

/-! ## What is read -/

/-- The greatest cap. -/
def greatestCap : Nat := 2 ^ 64 - 1

theorem window_of_ne (range : maximum < 2 ^ 64) (below : maximum ≠ greatestCap) :
    window maximum = maximum + 1 := by
  refine Nat.mod_eq_of_lt ?_
  rw [greatestCap] at below
  omega

theorem window_greatestCap : window greatestCap = 0 := rfl

theorem window_eq_succ_iff (range : maximum < 2 ^ 64) :
    window maximum = maximum + 1 ↔ maximum ≠ greatestCap := by
  refine ⟨?_, window_of_ne range⟩
  rintro same rfl
  cases same

theorem window_le (maximum : Nat) : window maximum ≤ maximum + 1 := Nat.mod_le _ _

/-- What has been read of a body, and the pieces that are still to come. -/
inductive Draws (count : Nat) (pieces : List Bytes) : Bytes -> List Bytes -> Prop where
  | start : Draws count pieces [] pieces
  | more {kept piece : Bytes} {rest : List Bytes} (drawn : Draws count pieces kept (piece :: rest))
      (room : kept.length < count) :
      Draws count pieces (kept ++ piece.take (count - kept.length)) rest

theorem Draws.length_le {count : Nat} {kept : Bytes} {rest : List Bytes}
    (draws : Draws count pieces kept rest) : kept.length ≤ count := by
  cases draws with
  | start => exact Nat.zero_le count
  | more _ room =>
      rw [List.length_append, List.length_take]
      omega

/-- These are the states that reading passes through. -/
theorem Draws.gather_eq {count : Nat} {kept : Bytes} {rest : List Bytes}
    (draws : Draws count pieces kept rest) (broken : Option Fault) :
    gather count broken kept rest = gather count broken [] pieces := by
  induction draws with
  | start => rfl
  | more _ room ih => rw [← ih, gather, if_pos room]

/-! ## What is made of it -/

/-- Below the greatest cap a body is held to the cap, and one that breaks off within it is not taken. -/
theorem reply_of_ne (range : maximum < 2 ^ 64) (below : maximum ≠ greatestCap) :
    reply maximum status headers pieces broken =
      if maximum < pieces.flatten.length then .error (.responseTooLarge maximum)
      else match broken with
        | none => .ok ⟨status, readableHeaders headers, pieces.flatten⟩
        | some fault => .error (.http fault.text) := by
  have window := window_of_ne range below
  by_cases beyond : maximum < pieces.flatten.length
  · have gathered : gather (Client.window maximum) broken [] pieces =
        .ok (pieces.flatten.take (maximum + 1)) := by
      rw [gather_start, window, if_neg (Nat.not_lt.2 beyond)]
    rw [reply_of_gathered gathered, if_pos beyond, if_pos]
    rw [List.length_take]
    omega
  · have short : pieces.flatten.length < Client.window maximum := by omega
    rw [if_neg beyond]
    cases broken with
    | some fault => exact reply_of_broken short
    | none =>
        have gathered : gather (Client.window maximum) none [] pieces = .ok pieces.flatten := by
          rw [gather_start, if_pos short]
        rw [reply_of_gathered gathered, if_neg beyond]

/-- With the greatest cap nothing is read at all. -/
theorem reply_greatestCap (status : Nat) (headers : List (String × Bytes)) (pieces : List Bytes)
    (broken : Option Fault) :
    reply greatestCap status headers pieces broken = .ok ⟨status, readableHeaders headers, []⟩ := by
  have gathered : gather (window greatestCap) broken [] pieces = .ok [] := by
    rw [gather_start, window_greatestCap, if_neg (Nat.not_lt_zero _), List.take_zero]
  rw [reply_of_gathered gathered]
  rfl

/-- A body that does not break off is held to the cap, unless it is lost. -/
theorem reply_eq_capped_iff (range : maximum < 2 ^ 64) :
    reply maximum status headers pieces none =
        Gate.capped maximum ⟨status, readableHeaders headers, pieces.flatten⟩ ↔
      maximum ≠ greatestCap ∨ pieces.flatten = [] := by
  by_cases below : maximum = greatestCap
  · subst below
    rw [reply_greatestCap, Gate.capped]
    generalize pieces.flatten = body
    cases body with
    | nil => simp
    | cons byte body =>
        -- Neither an answer with this body nor a refusal is one without a body.
        split <;> simp
  · rw [reply_of_ne range below, Gate.capped]
    simp only [ne_eq, below, not_false_eq_true, true_or, iff_true]
    by_cases beyond : maximum < pieces.flatten.length
    · rw [if_pos beyond, if_neg (Nat.not_le.2 beyond)]
    · rw [if_neg beyond, if_pos (Nat.le_of_not_lt beyond)]

/-- Behind the byte that tells that a body is too long, nothing counts. -/
theorem reply_of_same_front (range : maximum < 2 ^ 64) (beyond : maximum < pieces.flatten.length)
    (same : others.flatten.take (maximum + 1) = pieces.flatten.take (maximum + 1)) :
    reply maximum status headers others other = reply maximum status headers pieces broken := by
  by_cases below : maximum = greatestCap
  · subst below
    rw [reply_greatestCap, reply_greatestCap]
  · have length := congrArg List.length same
    rw [List.length_take, List.length_take] at length
    have beyondToo : maximum < others.flatten.length := by omega
    rw [reply_of_ne range below, reply_of_ne range below, if_pos beyond, if_pos beyondToo]

end Body

/-- Both transports give an answer whole if it is within the cap, and refuse a longer one. The client reads no
more than one byte beyond the cap, what is behind that has no part in what it gives, and a body that breaks
off is not taken for a shorter one. This is so exactly if the cap is not the greatest one, with which every
body is lost. -/
theorem cap_exact_iff {network : Network} {sent : List Prepared} {request : Prepared} {status : Nat}
    {headers : List (String × Bytes)} {pieces : List Bytes} {broken : Option Fault}
    (range : request.maxResponseBytes < 2 ^ 64) (supported : isMethod request.method = true)
    (sendable : areHeaders request.headers = true)
    (answered : Answered network status headers pieces broken (traffic network [] sent) maxMoves
      (messageOf request)) :
    let maximum := request.maxResponseBytes
    let whole : Reply := ⟨status, readableHeaders headers, pieces.flatten⟩
    let held : Except Gate.Failure Reply :=
      if whole.body.length ≤ maximum then .ok whole else .error (.responseTooLarge maximum)
    let given := (transport network).send sent request
    (∀ usual routes, Gate.routed usual routes request.url = .ok whole →
      (Transport.fixed usual routes).send sent request = held) ∧
    (broken = none → (given = held ↔ maximum ≠ greatestCap ∨ whole.body = [])) ∧
    (maximum ≠ greatestCap → ∀ reply, given = .ok reply →
      broken = none ∧ reply = whole ∧ whole.body.length ≤ maximum) ∧
    (maximum = greatestCap → given = .ok { whole with body := [] }) ∧
    (window maximum = maximum + 1 ↔ maximum ≠ greatestCap) ∧
    (∀ kept rest, Draws (window maximum) pieces kept rest → kept.length ≤ maximum + 1 ∧
      gather (window maximum) broken kept rest = gather (window maximum) broken [] pieces) ∧
    ∀ (other : Network) (others : List Bytes) (said : Option Fault),
      Answered other status headers others said (traffic other [] sent) maxMoves (messageOf request) →
      maximum < whole.body.length →
      others.flatten.take (maximum + 1) = whole.body.take (maximum + 1) →
      (transport other).send sent request = given := by
  intro maximum whole held given
  have replied : given = reply maximum status headers pieces broken :=
    answered.exchange_eq supported sendable
  refine ⟨?table, ?client, ?untruncated, ?lost, window_eq_succ_iff range, ?bounded, ?unread⟩
  case table =>
    intro usual routes found
    change (do Gate.capped maximum (← Gate.routed usual routes request.url)) = held
    rw [found]
    rfl
  case client =>
    rintro rfl
    rw [replied]
    exact reply_eq_capped_iff range
  case untruncated =>
    intro below reply done
    rw [replied, reply_of_ne range below] at done
    split at done
    next => cases done
    next within =>
      cases broken with
      | some fault => cases done
      | none =>
          cases done
          exact ⟨rfl, rfl, Nat.le_of_not_lt within⟩
  case lost =>
    intro greatest
    rw [replied, greatest]
    exact reply_greatestCap status headers pieces broken
  case bounded =>
    exact fun kept rest draws =>
      ⟨Nat.le_trans draws.length_le (window_le maximum), draws.gather_eq broken⟩
  case unread =>
    intro other others said answeredToo beyond same
    rw [replied, ← reply_of_same_front range beyond same]
    exact answeredToo.exchange_eq supported sendable

/-- A network that sends a message on, and then gives an answer of three bytes in two pieces. -/
def detour : Network :=
  ⟨fun before _ => match before with
    | [] => .moved 302 "https://a.b/c"
    | _ => .answered 200 [] [[0x61, 0x62], [0x63]] none⟩

def cappedGet (maximum : Nat) : Prepared := { plainGet with maxResponseBytes := maximum }

theorem answered_detour (maximum : Nat) :
    Answered detour 200 [] [[0x61, 0x62], [0x63]] none (traffic detour [] []) maxMoves
      (messageOf (cappedGet maximum)) :=
  .onward rfl (.here _ rfl)

/-- Three bytes are too many for a cap of two, and just enough for one of three. -/
theorem cap_exact_iff_three :
    (transport detour).send [] (cappedGet 2) = .error (.responseTooLarge 2) ∧
      (transport detour).send [] (cappedGet 3) = .ok ⟨200, [], [0x61, 0x62, 0x63]⟩ := by
  obtain ⟨-, short, -⟩ := cap_exact_iff (by decide) (by decide) (by decide) (answered_detour 2)
  obtain ⟨-, enough, -⟩ := cap_exact_iff (by decide) (by decide) (by decide) (answered_detour 3)
  exact ⟨(short rfl).2 (.inl (by decide)), (enough rfl).2 (.inl (by decide))⟩

/-- With the greatest cap the client gives an answer without a body, and the table gives it whole. -/
theorem body_lost_at_greatest_cap :
    let whole : Reply := ⟨200, [], [0x61, 0x62, 0x63]⟩
    whole.body.length ≤ greatestCap ∧
      (Transport.fixed (.ok whole) []).send [] (cappedGet greatestCap) = .ok whole ∧
      (transport detour).send [] (cappedGet greatestCap) = .ok { whole with body := [] } := by
  intro whole
  have replied := (answered_detour greatestCap).exchange_eq (by decide) (by decide)
  exact ⟨by decide, rfl, replied.trans (reply_greatestCap 200 [] _ none)⟩

end ScriptOracle.Net.Client
