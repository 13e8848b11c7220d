import Mathlib.Data.List.Infix
import Mathlib.Data.List.TakeWhile
import ScriptOracle.Proofs.Except
import ScriptOracle.Proofs.Gate.Failures
import ScriptOracle.Proofs.Json.Reader
import ScriptOracle.Secrets.Verifier

/-!
# Documents that can be had

Documents agree only if every one of them could be had: there was a successful answer, and its whole body
is within the cap and is a data value. Otherwise the first document that cannot be had is blamed, and no
address behind it is asked for. How a body is cut into pieces has no part in this, and while the pieces come
in no more bytes are kept than the cap allows.
-/

namespace ScriptOracle.Secrets

open Gate (isSuccess_iff)

/-! ## One answer -/

/-- There is a whole body of a successful answer, and it is a document within the cap. -/
inductive Delivery.Holds (maximum : Nat) : Delivery -> Json -> Prop where
  | document {status : Nat} {pieces : List Bytes} {document : Json}
      (success : 200 ≤ status ∧ status ≤ 299) (within : pieces.flatten.length ≤ maximum)
      (read : Json.read pieces.flatten = .ok document) :
      Holds maximum (.answered status pieces none) document

/-- What is wrong with an answer that holds no document. A body that is too long is refused even if it
breaks off. -/
inductive Delivery.Lacks (maximum : Nat) : Delivery -> FetchFault -> Prop where
  | failed (reason : String) : Lacks maximum (.failed reason) (.failed reason)
  | timedOut : Lacks maximum .timedOut .timeout
  | status {status : Nat} (pieces : List Bytes) (broken : Option String)
      (failure : ¬(200 ≤ status ∧ status ≤ 299)) :
      Lacks maximum (.answered status pieces broken) (.status status)
  | tooLarge {status : Nat} {pieces : List Bytes} (broken : Option String)
      (success : 200 ≤ status ∧ status ≤ 299) (beyond : maximum < pieces.flatten.length) :
      Lacks maximum (.answered status pieces broken) (.tooLarge maximum)
  | broken {status : Nat} {pieces : List Bytes} (reason : String)
      (success : 200 ≤ status ∧ status ≤ 299) (within : pieces.flatten.length ≤ maximum) :
      Lacks maximum (.answered status pieces (some reason)) (.failed reason)
  | notJson {status : Nat} {pieces : List Bytes} {fault : Json.Fault}
      (success : 200 ≤ status ∧ status ≤ 299) (within : pieces.flatten.length ≤ maximum)
      (read : Json.read pieces.flatten = .error fault) :
      Lacks maximum (.answered status pieces none) (.notJson (fault.message pieces.flatten))

/-- Two answers that differ only in how their bodies are cut into pieces. -/
inductive Delivery.Alike : Delivery -> Delivery -> Prop where
  | failed (reason : String) : Alike (.failed reason) (.failed reason)
  | timedOut : Alike .timedOut .timedOut
  | answered (status : Nat) {pieces others : List Bytes} (broken : Option String)
      (same : pieces.flatten = others.flatten) :
      Alike (.answered status pieces broken) (.answered status others broken)

namespace Verifier

/-! ## One body -/

section Gather

variable {maximum : Nat} {broken : Option String} {kept piece : Bytes} {pieces rest : List Bytes}

theorem gather_keep (room : kept.length + piece.length ≤ maximum) :
    gather maximum broken kept (piece :: rest) =
      (kept :: (gather maximum broken (kept ++ piece) rest).1,
        (gather maximum broken (kept ++ piece) rest).2) := by
  rw [gather, if_neg (Nat.not_lt.2 room)]

theorem gather_refuse (full : ¬ kept.length + piece.length ≤ maximum) :
    gather maximum broken kept (piece :: rest) = ([kept], .error (.tooLarge maximum)) := by
  rw [gather, if_pos (Nat.lt_of_not_le full)]

/-- Whatever is gathered from somewhere on depends on the bytes that are still to come, not on where they
are cut. -/
theorem gather_snd (within : kept.length ≤ maximum) :
    (gather maximum broken kept pieces).2 =
      if maximum < (kept ++ pieces.flatten).length then .error (.tooLarge maximum)
      else match broken with
        | none => .ok (kept ++ pieces.flatten)
        | some reason => .error (.failed reason) := by
  induction pieces generalizing kept with
  | nil =>
      rw [List.flatten_nil, List.append_nil, if_neg (Nat.not_lt.2 within)]
      cases broken <;> rfl
  | cons piece pieces ih =>
      by_cases room : kept.length + piece.length ≤ maximum
      · have next : (kept ++ piece).length ≤ maximum := by rwa [List.length_append]
        rw [gather_keep room, ih next, List.flatten_cons, List.append_assoc]
      · have beyond : maximum < (kept ++ (piece :: pieces).flatten).length := by
          rw [List.flatten_cons, List.length_append, List.length_append]
          omega
        rw [gather_refuse room, if_pos beyond]

theorem gather_start :
    (gather maximum broken [] pieces).2 =
      if maximum < pieces.flatten.length then .error (.tooLarge maximum)
      else match broken with
        | none => .ok pieces.flatten
        | some reason => .error (.failed reason) :=
  gather_snd (Nat.zero_le maximum)

/-- What is kept from somewhere on are the pieces joined so far, as long as they are within the cap. -/
theorem gather_fst (within : kept.length ≤ maximum) :
    (gather maximum broken kept pieces).1 =
      (pieces.inits.map (kept ++ ·.flatten)).takeWhile (·.length ≤ maximum) := by
  induction pieces generalizing kept with
  | nil =>
      have alone : (gather maximum broken kept []).1 = [kept] := by cases broken <;> rfl
      simp [alone, within]
  | cons piece pieces ih =>
      have joined : (piece :: pieces).inits.map (kept ++ ·.flatten) =
          kept :: pieces.inits.map (kept ++ piece ++ ·.flatten) := by
        simp [Function.comp_def]
      rw [joined, List.takeWhile_cons_of_pos (by simpa using within)]
      by_cases room : kept.length + piece.length ≤ maximum
      · have next : (kept ++ piece).length ≤ maximum := by rwa [List.length_append]
        rw [gather_keep room, ih next]
      · -- The pieces that would be kept next are too long already.
        obtain ⟨longer, same⟩ : ∃ longer, pieces.inits = [] :: longer := by cases pieces <;> simp
        rw [gather_refuse room, same]
        simp [room]

end Gather

/-! ## One document -/

variable (verifier : Verifier) {delivery : Delivery}

theorem receive_answered {status : Nat} (success : 200 ≤ status ∧ status ≤ 299) (pieces : List Bytes)
    (broken : Option String) :
    verifier.receive (.answered status pieces broken) =
      ((gather verifier.maxBytes broken [] pieces).1,
        (gather verifier.maxBytes broken [] pieces).2.bind readBody) := by
  rw [receive, if_pos (isSuccess_iff.2 success)]

theorem receive_refused {status : Nat} (failure : ¬(200 ≤ status ∧ status ≤ 299)) (pieces : List Bytes)
    (broken : Option String) :
    verifier.receive (.answered status pieces broken) = ([], .error (.status status)) := by
  rw [receive, if_neg (mt isSuccess_iff.1 failure)]

/-- What is kept while an answer is taken in are the pieces of its body joined so far, as long as they are
within the cap. -/
theorem receive_fst {status : Nat} (success : 200 ≤ status ∧ status ≤ 299) (pieces : List Bytes)
    (broken : Option String) :
    (verifier.receive (.answered status pieces broken)).1 =
      (pieces.inits.map List.flatten).takeWhile (·.length ≤ verifier.maxBytes) := by
  rw [receive_answered verifier success]
  exact gather_fst (Nat.zero_le _)

theorem length_le_of_mem_receive {held : Bytes} (member : held ∈ (verifier.receive delivery).1) :
    held.length ≤ verifier.maxBytes := by
  cases delivery with
  | failed | timedOut => cases member
  | answered status pieces broken =>
      by_cases success : 200 ≤ status ∧ status ≤ 299
      · rw [receive_fst verifier success] at member
        simpa using List.mem_takeWhile_imp member
      · rw [receive_refused verifier success] at member
        cases member

theorem receive_of_holds {document : Json} (holds : delivery.Holds verifier.maxBytes document) :
    (verifier.receive delivery).2 = .ok document := by
  obtain ⟨success, within, read⟩ := holds
  rw [receive_answered verifier success, gather_start, if_neg (Nat.not_lt.2 within)]
  show readBody _ = _
  rw [readBody, read]

theorem receive_of_lacks {fault : FetchFault} (lacks : delivery.Lacks verifier.maxBytes fault) :
    (verifier.receive delivery).2 = .error fault := by
  cases lacks with
  | failed | timedOut => rfl
  | status pieces broken failure => rw [receive_refused verifier failure]
  | tooLarge broken success beyond =>
      rw [receive_answered verifier success, gather_start, if_pos beyond]
      rfl
  | broken reason success within =>
      rw [receive_answered verifier success, gather_start, if_neg (Nat.not_lt.2 within)]
      rfl
  | notJson success within read =>
      rw [receive_answered verifier success, gather_start, if_neg (Nat.not_lt.2 within)]
      show readBody _ = _
      rw [readBody, read]

theorem holds_or_lacks (maximum : Nat) (delivery : Delivery) :
    (∃ document, delivery.Holds maximum document) ∨ ∃ fault, delivery.Lacks maximum fault := by
  cases delivery with
  | failed reason => exact .inr ⟨_, .failed reason⟩
  | timedOut => exact .inr ⟨_, .timedOut⟩
  | answered status pieces broken =>
      by_cases success : 200 ≤ status ∧ status ≤ 299
      · by_cases within : pieces.flatten.length ≤ maximum
        · cases broken with
          | some reason => exact .inr ⟨_, .broken reason success within⟩
          | none =>
              cases read : Json.read pieces.flatten with
              | ok document => exact .inl ⟨document, success, within, read⟩
              | error fault => exact .inr ⟨_, .notJson success within read⟩
        · exact .inr ⟨_, .tooLarge broken success (Nat.lt_of_not_le within)⟩
      · exact .inr ⟨_, .status pieces broken success⟩

theorem receive_snd_of_alike {other : Delivery} (alike : delivery.Alike other) :
    (verifier.receive other).2 = (verifier.receive delivery).2 := by
  cases alike with
  | failed | timedOut => rfl
  | answered status broken same =>
      by_cases success : 200 ≤ status ∧ status ≤ 299
      · rw [receive_answered verifier success, receive_answered verifier success, gather_start,
          gather_start, same]
      · rw [receive_refused verifier success, receive_refused verifier success]

/-! ## One document after the other -/

/-- All of some documents can be had, each when the ones before it have been asked for. -/
inductive Fetched (servers : Servers) : List String -> List String -> List Hosted -> Prop where
  | none (before : List String) : Fetched servers before [] []
  | next {before urls : List String} {url : String} {document : Json} {documents : List Hosted}
      (holds : (servers.deliver before url verifier.timeoutMs).Holds verifier.maxBytes document)
      (rest : Fetched servers (before ++ [url]) urls documents) :
      Fetched servers before (url :: urls) (⟨url, document⟩ :: documents)

/-- The first document that cannot be had, and the addresses before it. -/
structure FirstLack (servers : Servers) (urls earlier : List String) (url : String) (fault : FetchFault) :
    Prop where
  listed : ∃ later, urls = earlier ++ url :: later
  fetched : ∃ documents, Fetched verifier servers [] earlier documents
  lacks : (servers.deliver earlier url verifier.timeoutMs).Lacks verifier.maxBytes fault

variable {verifier} {servers : Servers} {before urls : List String} {documents : List Hosted}

theorem fetch_of_receive_ok {url : String} {document : Json}
    (done : (verifier.receive (servers.deliver before url verifier.timeoutMs)).2 = .ok document) :
    verifier.fetch servers before url = .ok ⟨url, document⟩ := by
  rw [fetch, done]

theorem fetch_of_receive_error {url : String} {fault : FetchFault}
    (failed : (verifier.receive (servers.deliver before url verifier.timeoutMs)).2 = .error fault) :
    verifier.fetch servers before url = .error (.fetch url fault) := by
  rw [fetch, failed]

theorem Fetched.fetchAll_append (fetched : Fetched verifier servers before urls documents)
    (more : List String) :
    verifier.fetchAll servers before (urls ++ more) =
      ((verifier.fetchAll servers (before ++ urls) more).1,
        (verifier.fetchAll servers (before ++ urls) more).2.map (documents ++ ·)) := by
  induction fetched with
  | none before =>
      rw [List.nil_append, List.append_nil]
      cases result : (verifier.fetchAll servers before more).2 <;>
        exact Prod.ext rfl result
  | @next before urls url document documents holds rest ih =>
      have had := fetch_of_receive_ok (verifier.receive_of_holds holds)
      rw [List.cons_append, fetchAll, had]
      dsimp only
      rw [ih, List.append_assoc, List.singleton_append]
      cases (verifier.fetchAll servers (before ++ url :: urls) more).2 <;> rfl

theorem Fetched.fetchAll_eq (fetched : Fetched verifier servers before urls documents) :
    verifier.fetchAll servers before urls = (before ++ urls, .ok documents) := by
  have all := fetched.fetchAll_append []
  rw [List.append_nil] at all
  rw [all, fetchAll, Except.map, List.append_nil]

/-- Either all documents can be had, or there is a first that cannot. -/
theorem fetched_or_lacks (verifier : Verifier) (servers : Servers) (before urls : List String) :
    (∃ documents, Fetched verifier servers before urls documents) ∨
      ∃ earlier url later documents fault, urls = earlier ++ url :: later ∧
        Fetched verifier servers before earlier documents ∧
        (servers.deliver (before ++ earlier) url verifier.timeoutMs).Lacks verifier.maxBytes fault := by
  induction urls generalizing before with
  | nil => exact .inl ⟨[], .none before⟩
  | cons url urls ih =>
      rcases holds_or_lacks verifier.maxBytes (servers.deliver before url verifier.timeoutMs) with
        ⟨document, holds⟩ | ⟨fault, lacks⟩
      · rcases ih (before ++ [url]) with
          ⟨documents, rest⟩ | ⟨earlier, blamed, later, documents, fault, rfl, rest, lacks⟩
        · exact .inl ⟨_, .next holds rest⟩
        · refine .inr ⟨url :: earlier, blamed, later, _, fault, rfl, .next holds rest, ?_⟩
          rwa [List.append_assoc, List.singleton_append] at lacks
      · refine .inr ⟨[], url, urls, [], fault, rfl, .none before, ?_⟩
        rwa [List.append_nil]

theorem fetched_or_firstLack (verifier : Verifier) (servers : Servers) (urls : List String) :
    (∃ documents, Fetched verifier servers [] urls documents) ∨
      ∃ earlier url fault, FirstLack verifier servers urls earlier url fault := by
  rcases fetched_or_lacks verifier servers [] urls with
    all | ⟨earlier, url, later, documents, fault, same, fetched, lacks⟩
  · exact .inl all
  · exact .inr ⟨earlier, url, fault, ⟨later, same⟩, ⟨documents, fetched⟩, lacks⟩

/-! ## The whole check -/

variable {nodes : List String}

theorem check_of_fetched (fetched : Fetched verifier servers [] urls documents) :
    verifier.check servers urls nodes = (urls, Agreement.check documents nodes) := by
  rw [check, fetched.fetchAll_eq]
  rfl

theorem check_of_firstLack {earlier : List String} {url : String} {fault : FetchFault}
    (lack : FirstLack verifier servers urls earlier url fault) :
    verifier.check servers urls nodes = (earlier ++ [url], .error (.fetch url fault)) := by
  obtain ⟨⟨later, rfl⟩, ⟨documents, fetched⟩, lacks⟩ := lack
  have failed := fetch_of_receive_error (verifier.receive_of_lacks lacks)
  rw [check, fetched.fetchAll_append, List.nil_append, fetchAll, failed]
  rfl

theorem check_eq_ok_iff {agreement : Agreement} :
    (verifier.check servers urls nodes).2 = .ok agreement ↔
      ∃ documents, Fetched verifier servers [] urls documents ∧
        Agreement.check documents nodes = .ok agreement := by
  constructor
  · intro agreed
    rcases fetched_or_firstLack verifier servers urls with ⟨documents, fetched⟩ | ⟨_, _, _, lack⟩
    · rw [check_of_fetched fetched] at agreed
      exact ⟨documents, fetched, agreed⟩
    · rw [check_of_firstLack lack] at agreed
      cases agreed
  · rintro ⟨documents, fetched, agreed⟩
    rw [check_of_fetched fetched, agreed]

theorem fetchAll_congr {others : Servers}
    (same : ∀ before url, verifier.fetch others before url = verifier.fetch servers before url)
    (before urls : List String) :
    verifier.fetchAll others before urls = verifier.fetchAll servers before urls := by
  induction urls generalizing before with
  | nil => rfl
  | cons url urls ih =>
      rw [fetchAll, fetchAll, same]
      simp only [ih]

/-- Two networks of servers that differ only in how bodies are cut into pieces. -/
def Alike (servers others : Servers) : Prop :=
  ∀ before url timeoutMs,
    (servers.deliver before url timeoutMs).Alike (others.deliver before url timeoutMs)

theorem check_of_alike {others : Servers} (alike : Alike servers others) :
    verifier.check others urls nodes = verifier.check servers urls nodes := by
  have same : ∀ before url, verifier.fetch others before url = verifier.fetch servers before url := by
    intro before url
    rw [fetch, fetch, verifier.receive_snd_of_alike (alike before url verifier.timeoutMs)]
  rw [check, check, fetchAll_congr same]

/-- Whatever the servers do, documents agree exactly if all of them could be had and are found to agree. If
not all could be had, the first that could not is blamed, and no address behind it is asked for. How bodies
are cut into pieces has no part in it, and of a body no more than the cap is kept at any time. -/
theorem check_fails_closed (verifier : Verifier) (servers : Servers) (urls nodes : List String) :
    (∀ agreement, (verifier.check servers urls nodes).2 = .ok agreement ↔
      ∃ documents, Fetched verifier servers [] urls documents ∧
        Agreement.check documents nodes = .ok agreement) ∧
    (∀ documents, Fetched verifier servers [] urls documents →
      verifier.check servers urls nodes = (urls, Agreement.check documents nodes)) ∧
    (∀ earlier url fault, FirstLack verifier servers urls earlier url fault →
      verifier.check servers urls nodes = (earlier ++ [url], .error (.fetch url fault))) ∧
    ((∃ documents, Fetched verifier servers [] urls documents) ∨
      ∃ earlier url fault, FirstLack verifier servers urls earlier url fault) ∧
    (∀ others, Alike servers others →
      verifier.check others urls nodes = verifier.check servers urls nodes) ∧
    (∀ delivery, ∀ held ∈ (verifier.receive delivery).1, held.length ≤ verifier.maxBytes) ∧
    ∀ status pieces broken, 200 ≤ status ∧ status ≤ 299 →
      (verifier.receive (.answered status pieces broken)).1 =
        (pieces.inits.map List.flatten).takeWhile (·.length ≤ verifier.maxBytes) :=
  ⟨fun _ => check_eq_ok_iff, fun _ => check_of_fetched, fun _ _ _ => check_of_firstLack,
    fetched_or_firstLack verifier servers urls, fun _ => check_of_alike,
    fun _ _ => length_le_of_mem_receive verifier,
    fun _ pieces broken success => receive_fst verifier success pieces broken⟩

/-- Two addresses, the first of which serves a document that fills the cap, in one piece or in two. The
second breaks off, and a third is not asked for. Of a body that goes on behind the cap, what does not fit is
never kept. -/
theorem check_fails_closed_broken :
    let document : Bytes := Text.utf8 (Json.object [("0x0", .integer 1)]).compact
    let answers (pieces : List Bytes) : Servers := ⟨fun _ url _ =>
      if url = "a" then .answered 200 pieces none else .answered 200 [[0x7B]] (some "closed")⟩
    let verifier : Verifier := ⟨3000, 9⟩
    (verifier.check (answers [document]) ["a"] ["0x1"]).2 = .ok ⟨1, [⟨"a", "0x1"⟩]⟩ ∧
      verifier.check (answers [document]) ["a", "b", "c"] [] =
        (["a", "b"], .error (.fetch "b" (.failed "closed"))) ∧
      verifier.check (answers [document.take 4, document.drop 4]) ["a"] ["0x1"] =
        verifier.check (answers [document]) ["a"] ["0x1"] ∧
      (verifier.receive (.answered 200 [document.take 4, document.drop 4, [0x0A], []] none)).1 =
        [[], document.take 4, document] := by
  intro document answers verifier
  have exact : Json.Exact 1 (.object [("0x0", .integer 1)]) :=
    .object (by decide) (List.forall_mem_singleton.2 (.integer 0 (by decide) (by decide)))
  have read : Json.read document = .ok (.object [("0x0", .integer 1)]) := exact.readText (by decide)
  have fetched : Fetched verifier (answers [document]) [] ["a"] [⟨"a", .object [("0x0", .integer 1)]⟩] :=
    .next (.document (by decide) (by decide) (by rw [List.flatten_singleton, read])) (.none _)
  have agreed : Agreement.check [⟨"a", .object [("0x0", .integer 1)]⟩] ["0x1"] = .ok ⟨1, [⟨"a", "0x1"⟩]⟩ :=
    rfl
  have lack : FirstLack verifier (answers [document]) ["a", "b", "c"] ["a"] "b" (.failed "closed") :=
    ⟨⟨["c"], rfl⟩, ⟨_, fetched⟩, .broken "closed" (by decide) (by decide)⟩
  have cut : Alike (answers [document]) (answers [document.take 4, document.drop 4]) := by
    intro before url timeoutMs
    by_cases first : url = "a"
    · simp only [answers, if_pos first]
      exact .answered 200 none rfl
    · simp only [answers, if_neg first]
      exact .answered 200 (some "closed") rfl
  obtain ⟨accepts, -, -, -, same, -, held⟩ := check_fails_closed verifier (answers [document]) ["a"] ["0x1"]
  obtain ⟨-, -, blames, -⟩ := check_fails_closed verifier (answers [document]) ["a", "b", "c"] []
  refine ⟨(accepts _).2 ⟨_, fetched, agreed⟩, blames _ _ _ lack, same _ cut, ?_⟩
  rw [held _ _ _ (by decide)]
  decide

end Verifier

end ScriptOracle.Secrets
