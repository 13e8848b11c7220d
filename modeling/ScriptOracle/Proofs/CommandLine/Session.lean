import ScriptOracle.CommandLine.Session
import ScriptOracle.Proofs.Sandbox.Response
import ScriptOracle.Proofs.Secrets.Faults

/-!
# What comes before everything else

Every command reads what was handed in, all of it, before it does anything. A complaint about what was handed
in is therefore the only thing that comes of the command. Once a script is run or documents are asked for, a
command may still fail, but it does not put that down to what was handed in.
-/

namespace ScriptOracle.CommandLine

/-! ## Steps that only read -/

/-- Nothing but what comes in was used. -/
def Session.OnlyRead (before after : Session) : Prop := after = { before with incoming := after.incoming }

namespace Session.OnlyRead

variable {before between after : Session}

theorem refl (session : Session) : session.OnlyRead session := rfl

theorem trans (first : before.OnlyRead between) (second : between.OnlyRead after) :
    before.OnlyRead after := by
  rw [OnlyRead] at *
  rw [second, first]

end Session.OnlyRead

namespace Step

variable {α β : Type} {step : Step α} {next : α -> Step β}

def Reads (step : Step α) : Prop := ∀ session : Session, session.OnlyRead (step session).2

/-- The step does not complain of what was handed in. -/
def Trusts (step : Step α) : Prop :=
  ∀ (session : Session) (message : String), (step session).1 ≠ .error (.input message)

/-- If the step complains of what was handed in, it has only read. -/
def Heeds (step : Step α) : Prop :=
  ∀ (session : Session) (message : String), (step session).1 = .error (.input message) →
    session.OnlyRead (step session).2

/-- What comes of two steps: of both, or of the first if it fails. -/
theorem bind_cases (step : Step α) (next : α -> Step β) (session : Session) :
    (∃ complaint after, step session = (.error complaint, after) ∧
      (step >>= next) session = (.error complaint, after)) ∨
    ∃ value after, step session = (.ok value, after) ∧
      (step >>= next) session = next value after := by
  show (∃ complaint after, _ ∧ andThen step next session = _) ∨
    ∃ value after, _ ∧ andThen step next session = _
  rw [andThen]
  split
  next value after found => exact .inr ⟨value, after, found, rfl⟩
  next complaint after found => exact .inl ⟨complaint, after, found, rfl⟩

theorem bind_of_ok {session : Session} {value : α} (done : (step session).1 = .ok value) :
    (step >>= next) session = next value (step session).2 := by
  rcases bind_cases step next session with ⟨_, _, found, -⟩ | ⟨_, _, found, whole⟩
  · rw [found] at done
    cases done
  · rw [found] at done
    cases done
    rw [whole, found]

theorem bind_eq_ok_iff {session : Session} {result : β} :
    ((step >>= next) session).1 = .ok result ↔
      ∃ value, (step session).1 = .ok value ∧ (next value (step session).2).1 = .ok result := by
  rcases bind_cases step next session with ⟨_, _, found, whole⟩ | ⟨value, _, found, whole⟩
  · rw [whole, found]
    exact ⟨nofun, fun ⟨_, failed, _⟩ => nomatch failed⟩
  · rw [whole, found]
    refine ⟨fun done => ⟨value, rfl, done⟩, ?_⟩
    rintro ⟨_, ⟨⟩, done⟩
    exact done

theorem bind_assoc {γ : Type} (step : Step α) (next : α -> Step β) (last : β -> Step γ) :
    (step >>= next) >>= last = step >>= fun value => next value >>= last := by
  funext session
  rcases bind_cases step next session with ⟨_, _, found, whole⟩ | ⟨_, _, found, whole⟩
  all_goals
    show andThen (step >>= next) last session = andThen step (fun value => next value >>= last) session
    rw [andThen, andThen, whole, found]
  rfl

/-! ### How steps are put together -/

theorem Reads.bind (reads : step.Reads) (others : ∀ value, (next value).Reads) :
    (step >>= next).Reads := by
  intro session
  have first := reads session
  rcases bind_cases step next session with ⟨_, _, found, whole⟩ | ⟨value, after, found, whole⟩
  all_goals rw [found] at first
  · rw [whole]
    exact first
  · rw [whole]
    exact first.trans (others value after)

theorem Trusts.bind (trusts : step.Trusts) (others : ∀ value, (next value).Trusts) :
    (step >>= next).Trusts := by
  intro session message
  rcases bind_cases step next session with ⟨_, _, found, whole⟩ | ⟨value, after, -, whole⟩
  · have first := trusts session message
    rw [found] at first
    rw [whole]
    rintro ⟨⟩
    exact first rfl
  · rw [whole]
    exact others value after message

theorem Trusts.heeds (trusts : step.Trusts) : step.Heeds :=
  fun session message failed => absurd failed (trusts session message)

/-- First everything is read. -/
theorem Reads.andThen (reads : step.Reads) (others : ∀ value, (next value).Heeds) :
    (step >>= next).Heeds := by
  intro session message
  have first := reads session
  rcases bind_cases step next session with ⟨_, _, found, whole⟩ | ⟨value, after, found, whole⟩
  all_goals rw [found] at first
  · rw [whole]
    exact fun _ => first
  · rw [whole]
    exact fun failed => first.trans (others value after message failed)

/-- In the end nothing is complained of. -/
theorem Heeds.andThen (heeds : step.Heeds) (others : ∀ value, (next value).Trusts) :
    (step >>= next).Heeds := by
  intro session message
  rcases bind_cases step next session with ⟨_, _, found, whole⟩ | ⟨value, after, -, whole⟩
  · have first := heeds session message
    rw [found] at first
    rw [whole]
    rintro ⟨⟩
    exact first rfl
  · rw [whole]
    exact fun failed => absurd failed (others value after message)

theorem trusts_print (line : String) : (print line).Trusts := fun _ _ failed => nomatch failed

theorem trusts_printAll (lines : List String) : (printAll lines).Trusts :=
  fun _ _ failed => nomatch failed

/-! ### What a step finds -/

/-- The step reads, and finds this in what comes in, and leaves that of it. -/
def Finds (step : Step α) (found : Bytes -> Option α) (left : Bytes -> Bytes) : Prop :=
  ∀ session : Session, (step session).1.toOption = found session.incoming ∧
    (step session).2 = { session with incoming := left session.incoming }

theorem Finds.reads {found : Bytes -> Option α} {left : Bytes -> Bytes} (finds : step.Finds found left) :
    step.Reads := by
  intro session
  rw [Session.OnlyRead, (finds session).2]

theorem finds_done (value : α) : (done value).Finds (fun _ => some value) id :=
  fun _ => ⟨rfl, rfl⟩

theorem finds_fail (complaint : Complaint) : (fail complaint : Step α).Finds (fun _ => none) id :=
  fun _ => ⟨rfl, rfl⟩

theorem finds_ofExcept (result : Except Complaint α) :
    (ofExcept result).Finds (fun _ => result.toOption) id :=
  fun _ => ⟨rfl, rfl⟩

/-- What is found is looked at, and nothing else is read. -/
theorem Finds.bind {found : Bytes -> Option α} {left : Bytes -> Bytes} {look : α -> Option β}
    (finds : step.Finds found left) (looks : ∀ value, (next value).Finds (fun _ => look value) id) :
    (step >>= next).Finds (fun incoming => (found incoming).bind look) left := by
  intro session
  obtain ⟨first, rest⟩ := finds session
  dsimp only
  rw [← first, ← rest]
  rcases bind_cases step next session with ⟨_, _, given, whole⟩ | ⟨value, after, given, whole⟩
  · rw [whole, given]
    exact ⟨rfl, rfl⟩
  · rw [whole, given]
    exact looks value after

theorem Finds.bind_of_found {found : Bytes -> Option α} {left : Bytes -> Bytes}
    (finds : step.Finds found left) {session : Session} {value : α}
    (given : found session.incoming = some value) :
    (step >>= next) session = next value { session with incoming := left session.incoming } := by
  obtain ⟨first, rest⟩ := finds session
  rw [bind_of_ok (eq_ok_of_toOption (first.trans given)), rest]

/-- Two steps come to an end if the first finds a value and the second comes to an end with it. -/
theorem Finds.bind_eq_ok_iff {found : Bytes -> Option α} {left : Bytes -> Bytes}
    (finds : step.Finds found left) {session : Session} {result : β} :
    ((step >>= next) session).1 = .ok result ↔ ∃ value, found session.incoming = some value ∧
      (next value { session with incoming := left session.incoming }).1 = .ok result := by
  obtain ⟨first, rest⟩ := finds session
  rw [Step.bind_eq_ok_iff, rest, ← first]
  refine exists_congr fun value => and_congr_left fun _ => ?_
  exact ⟨fun done => by rw [done]; rfl, eq_ok_of_toOption⟩

end Step

open Step

/-! ## Reading -/

def Surroundings.textAt? (around : Surroundings) (path : String) (incoming : Bytes) : Option String :=
  (if path = "-" then some incoming else (around.files path).toOption).bind Text.ofUtf8?

/-- What is left of what comes in when a path was read. -/
def unread (path : String) (incoming : Bytes) : Bytes := if path = "-" then [] else incoming

def Surroundings.jsonAt? (around : Surroundings) (path : String) (incoming : Bytes) : Option Json :=
  (around.textAt? path incoming).bind fun text => (Json.readText text).toOption

def Surroundings.secretsAt? (around : Surroundings) (path : String) (incoming : Bytes) :
    Option (Fields String) :=
  (around.jsonAt? path incoming).bind fun value => (Json.readStringFields value).toOption

variable (around : Surroundings)

theorem finds_readText (path : String) :
    (readText around path).Finds (around.textAt? path) (unread path) := by
  intro session
  rw [readText, Surroundings.textAt?, unread]
  split
  next =>
    rw [readIncoming, Option.bind_some]
    cases Text.ofUtf8? session.incoming <;> exact ⟨rfl, rfl⟩
  next =>
    rw [fileText]
    cases around.files path with
    | error fault => exact ⟨rfl, rfl⟩
    | ok bytes =>
        rw [Except.toOption, Option.bind_some]
        dsimp only
        cases Text.ofUtf8? bytes <;> exact ⟨rfl, rfl⟩

theorem finds_readJson (path : String) :
    (readJson around path).Finds (around.jsonAt? path) (unread path) := by
  refine (finds_readText around path).bind fun text => ?_
  cases Json.readText text with
  | ok value => exact finds_done value
  | error fault => exact finds_fail _

theorem finds_readSecrets (path : String) :
    (readSecrets around path).Finds (around.secretsAt? path) (unread path) := by
  refine (finds_readJson around path).bind fun value => ?_
  cases Json.readStringFields value with
  | ok secrets => exact finds_done secrets
  | error fault => exact finds_fail _

/-! ## Commands -/

theorem trusts_resultOf (verdict : Sandbox.Verdict) : (ofExcept (resultOf verdict)).Trusts := by
  intro session message failed
  cases verdict <;> cases failed

theorem trusts_bytesOf (result : Script.Result) (maximum : Nat) :
    (ofExcept (bytesOf result maximum)).Trusts := by
  intro session message failed
  replace failed : bytesOf result maximum = .error (.input message) := failed
  rw [bytesOf] at failed
  split at failed <;> cases failed

/-- Reads the secrets for a script, if there are any. -/
def readGiven : Option String -> Step (Option (Fields String))
  | none => pure none
  | some path => do pure (some (← readSecrets around path))

def runRead (request : Sandbox.Request) (maximum : Nat) (type : Option ReturnType) : Step Unit := do
  let verdict ← evaluate around (Settings.ofVariables around.lookup) request
  Step.printAll ((logOf verdict).map logLine)
  let result ← Step.ofExcept (resultOf verdict)
  let bytes ← Step.ofExcept (bytesOf result maximum)
  Step.printAll (resultLines type bytes)

theorem simulate_eq (source : String) (args : List String) (secrets : Option String)
    (quota maxResponseBytes : Option Nat) (returnType : Option String) :
    simulate around source args secrets quota maxResponseBytes returnType = (do
      let type ← Step.ofExcept (readReturnType returnType)
      let source ← readText around source
      let secrets ← readGiven around secrets
      let settings := Settings.ofVariables around.lookup
      runRead around ⟨source, args, secrets, quota.getD settings.quota⟩
        (maxResponseBytes.getD settings.maxResponseBytes) type) := by
  cases secrets with
  | none => rfl
  | some path =>
      simp only [readGiven, bind_assoc]
      rfl

theorem reads_readGiven (secrets : Option String) : (readGiven around secrets).Reads := by
  cases secrets with
  | none => exact (finds_done none).reads
  | some path =>
      exact (finds_readSecrets around path).reads.bind fun secrets => (finds_done (some secrets)).reads

theorem trusts_runRead (request : Sandbox.Request) (maximum : Nat) (type : Option ReturnType) :
    (runRead around request maximum type).Trusts := by
  refine Trusts.bind (fun _ _ failed => nomatch failed) fun verdict => ?_
  refine (trusts_printAll _).bind fun _ => ?_
  refine (trusts_resultOf verdict).bind fun result => ?_
  exact (trusts_bytesOf result maximum).bind fun _ => trusts_printAll _

theorem heeds_simulate (source : String) (args : List String) (secrets : Option String)
    (quota maxResponseBytes : Option Nat) (returnType : Option String) :
    (simulate around source args secrets quota maxResponseBytes returnType).Heeds := by
  rw [simulate_eq]
  refine (finds_ofExcept _).reads.andThen fun type => ?_
  refine (finds_readText around source).reads.andThen fun source => ?_
  exact (reads_readGiven around secrets).andThen fun secrets => (trusts_runRead around _ _ _).heeds

/-- Only faults of a configuration are put down to what was handed in. -/
theorem eq_config_of_ofSecrets {fault : Secrets.Fault} {message : String}
    (blamed : Complaint.ofSecrets fault = .input message) : ∃ cause, fault = .config cause := by
  cases fault with
  | config cause => exact ⟨cause, rfl⟩
  | encryption | decryption | fetch | inconsistent | missing => cases blamed

theorem trusts_withSecrets {α : Type} {result : Except Secrets.Fault α}
    (unblamed : Secrets.Unblamed result) : (withSecrets result).Trusts := by
  intro session message failed
  cases result with
  | ok value => cases failed
  | error fault =>
      obtain ⟨cause, rfl⟩ := eq_config_of_ofSecrets (Except.error.inj failed)
      exact unblamed cause rfl

theorem trusts_encryption {α : Type} (result : Except Secrets.EncryptionFault α) :
    (withSecrets (result.mapError Secrets.Fault.encryption)).Trusts := by
  refine trusts_withSecrets ?_
  cases result with
  | ok value => exact .ok value
  | error fault => exact fun _ failed => nomatch failed

/-- No documents are asked for before a configuration is found to be at fault. -/
theorem heeds_tellAsked {α : Type} {found : List String × Except Secrets.Fault α}
    (idle : ∀ fault, found.2 = .error (.config fault) -> found.1 = []) : (tellAsked found).Heeds := by
  obtain ⟨asked, result⟩ := found
  intro session message failed
  cases result with
  | ok value => cases failed
  | error fault =>
      obtain ⟨cause, rfl⟩ := eq_config_of_ofSecrets (Except.error.inj failed)
      obtain rfl : asked = [] := idle cause rfl
      simp only [tellAsked, withSecrets, Step.ofExcept, List.append_nil]
      rfl

/-- Whatever a command is to do, it only reads before it complains of what was handed in. -/
theorem heeds_carryOut (command : Command) : (carryOut around command).Heeds := by
  cases command with
  | simulate source args secrets quota maxResponseBytes returnType =>
      exact heeds_simulate around source args secrets quota maxResponseBytes returnType
  | buildRequest config nodes =>
      refine (finds_readJson around config).reads.andThen fun value => ?_
      refine (heeds_tellAsked fun _ => Secrets.Package.asked_of_config_fault).andThen fun _ => ?_
      exact trusts_print _
  | encrypt message publicKey signerKey =>
      exact ((trusts_encryption _).bind fun _ => trusts_print _).heeds
  | hostSecrets secrets walletKey publicKey =>
      refine (finds_readSecrets around secrets).reads.andThen fun _ => Trusts.heeds ?_
      exact (trusts_encryption _).bind fun _ => trusts_print _
  | verifySecrets urls nodes =>
      have unblamed := Secrets.Verifier.usual.unblamed_check around.servers urls nodes
      refine (heeds_tellAsked fun fault failed => absurd failed (unblamed fault)).andThen fun _ => ?_
      exact (trusts_printAll _).bind fun _ => trusts_print _

/-! ## Scripts -/

def Surroundings.report (around : Surroundings) (disk : Sandbox.Disk) (request : Sandbox.Request) :
    Sandbox.Report :=
  let settings := Settings.ofVariables around.lookup
  let (scratch, disk) := settings.openScratch disk
  let runner := { settings.runner scratch with logging := true }
  (runner.evaluate (.patient (Net.Client.transport around.network)) disk request).1

/-- Everything that is handed in to run a script is in order, and the script ends with bytes that are not too
many. -/
inductive Surroundings.Yields (around : Surroundings) (incoming : Bytes) (disk : Sandbox.Disk) :
    Command -> Option ReturnType -> Bytes -> List Gate.LogEntry -> Prop
  | simulate {source : String} {args : List String} {secrets : Option String}
      {quota maxResponseBytes : Option Nat} {returnType : Option String} {type : Option ReturnType}
      {script : String} {given : Option (Fields String)} {bytes : Bytes} {log : List Gate.LogEntry}
      (known : returnType.mapM ReturnType.ofName? = some type)
      (readable : around.textAt? source incoming = some script)
      (wellFormed : secrets.mapM (around.secretsAt? · (unread source incoming)) = some given)
      (succeeded : (around.report disk ⟨script, args, given,
          quota.getD (Settings.ofVariables around.lookup).quota⟩).verdict =
        .succeeded (.bytes bytes) log)
      (fits : bytes.length ≤
        maxResponseBytes.getD (Settings.ofVariables around.lookup).maxResponseBytes) :
      Yields around incoming disk
        (.simulate source args secrets quota maxResponseBytes returnType) type bytes log

theorem finds_readReturnType (name : Option String) :
    (Step.ofExcept (readReturnType name)).Finds (fun _ => name.mapM ReturnType.ofName?) id := by
  intro session
  cases name with
  | none => exact ⟨rfl, rfl⟩
  | some name =>
      rw [readReturnType, Option.mapM_some]
      cases ReturnType.ofName? name <;> exact ⟨rfl, rfl⟩

theorem finds_readGiven (secrets : Option String) :
    (readGiven around secrets).Finds (fun incoming => secrets.mapM (around.secretsAt? · incoming))
      (fun incoming => secrets.elim incoming (unread · incoming)) := by
  cases secrets with
  | none => exact finds_done none
  | some path =>
      have same : (fun incoming => Option.mapM (around.secretsAt? · incoming) (some path)) =
          fun incoming => (around.secretsAt? path incoming).bind fun secrets => some (some secrets) := by
        funext incoming
        show some <$> around.secretsAt? path incoming = _
        cases around.secretsAt? path incoming <;> rfl
      rw [same]
      exact (finds_readSecrets around path).bind fun secrets => finds_done (some secrets)

theorem resultOf_eq_ok_iff {verdict : Sandbox.Verdict} {result : Script.Result} :
    resultOf verdict = .ok result ↔ ∃ log, verdict = .succeeded result log := by
  cases verdict with
  | succeeded found log => simp [resultOf]
  | failed | crashed | exhausted => simp [resultOf]

theorem bytesOf_eq_ok_iff {result : Script.Result} {maximum : Nat} {bytes : Bytes} :
    bytesOf result maximum = .ok bytes ↔ result = .bytes bytes ∧ bytes.length ≤ maximum := by
  rw [← Sandbox.outputBytes_eq_ok_iff, bytesOf]
  cases Sandbox.outputBytes result maximum with
  | ok passed => simp only [Except.ok.injEq]
  | error fault => exact ⟨nofun, nofun⟩

/-- The script is run and its log is printed, and then comes what it ended with. -/
theorem runRead_apply (request : Sandbox.Request) (maximum : Nat) (type : Option ReturnType)
    (session : Session) :
    let verdict := (around.report session.disk request).verdict
    let ran := (evaluate around (Settings.ofVariables around.lookup) request session).2
    runRead around request maximum type session = (do
      let result ← Step.ofExcept (resultOf verdict)
      let bytes ← Step.ofExcept (bytesOf result maximum)
      Step.printAll (resultLines type bytes)) (ran.printAll ((logOf verdict).map logLine)) := by
  intro verdict ran
  have done : (evaluate around (Settings.ofVariables around.lookup) request session).1 =
    .ok verdict := rfl
  rw [runRead, bind_of_ok done]
  rfl

theorem runRead_eq_ok_iff {request : Sandbox.Request} {maximum : Nat} {type : Option ReturnType}
    {session : Session} : (runRead around request maximum type session).1 = .ok () ↔
      ∃ bytes log, (around.report session.disk request).verdict = .succeeded (.bytes bytes) log ∧
        bytes.length ≤ maximum := by
  rw [runRead_apply]
  simp only [Step.bind_eq_ok_iff, Step.ofExcept, resultOf_eq_ok_iff, bytesOf_eq_ok_iff]
  constructor
  · rintro ⟨_, ⟨log, ended⟩, bytes, ⟨rfl, fits⟩, -⟩
    exact ⟨bytes, log, ended, fits⟩
  · rintro ⟨bytes, log, ended, fits⟩
    exact ⟨.bytes bytes, ⟨log, ended⟩, bytes, ⟨rfl, fits⟩, rfl⟩

theorem lines_runRead {request : Sandbox.Request} {maximum : Nat} {type : Option ReturnType}
    {session : Session} {bytes : Bytes} {log : List Gate.LogEntry}
    (ended : (around.report session.disk request).verdict = .succeeded (.bytes bytes) log)
    (fits : bytes.length ≤ maximum) :
    (runRead around request maximum type session).2.lines =
      session.lines ++ log.map logLine ++ resultLines type bytes := by
  have passed : bytesOf (.bytes bytes) maximum = .ok bytes := bytesOf_eq_ok_iff.2 ⟨rfl, fits⟩
  rw [runRead_apply, ended]
  show ((Step.ofExcept (bytesOf (.bytes bytes) maximum) >>= _) _).2.lines = _
  rw [passed]
  rfl

theorem simulate_eq_ok_iff {incoming : Bytes} {disk : Sandbox.Disk} {source : String}
    {args : List String} {secrets : Option String} {quota maxResponseBytes : Option Nat}
    {returnType : Option String} :
    (carryOut around (.simulate source args secrets quota maxResponseBytes returnType)
      (.start incoming disk)).1 = .ok () ↔
      ∃ type bytes log, around.Yields incoming disk
        (.simulate source args secrets quota maxResponseBytes returnType) type bytes log := by
  rw [carryOut]
  rw [simulate_eq, (finds_readReturnType returnType).bind_eq_ok_iff]
  simp only [(finds_readText around source).bind_eq_ok_iff,
    (finds_readGiven around secrets).bind_eq_ok_iff, runRead_eq_ok_iff]
  constructor
  · rintro ⟨type, known, script, readable, given, wellFormed, bytes, log, succeeded, fits⟩
    exact ⟨type, bytes, log, .simulate known readable wellFormed succeeded fits⟩
  · rintro ⟨type, bytes, log, known, readable, wellFormed, succeeded, fits⟩
    exact ⟨type, known, _, readable, _, wellFormed, bytes, log, succeeded, fits⟩

/-- If everything is in order, what is left to do is to run the script. -/
theorem simulate_of_found (session : Session) {source : String} (args : List String)
    {secrets : Option String} (quota maxResponseBytes : Option Nat) {returnType : Option String}
    {type : Option ReturnType} {script : String} {given : Option (Fields String)}
    (known : returnType.mapM ReturnType.ofName? = some type)
    (readable : around.textAt? source session.incoming = some script)
    (wellFormed : secrets.mapM (around.secretsAt? · (unread source session.incoming)) = some given) :
    simulate around source args secrets quota maxResponseBytes returnType session =
      runRead around
        ⟨script, args, given, quota.getD (Settings.ofVariables around.lookup).quota⟩
        (maxResponseBytes.getD (Settings.ofVariables around.lookup).maxResponseBytes) type
        { session with
          incoming := secrets.elim (unread source session.incoming)
            (unread · (unread source session.incoming)) } := by
  rw [simulate_eq, Step.Finds.bind_of_found (finds_readReturnType returnType) known]
  refine ((finds_readText around source).bind_of_found readable).trans ?_
  exact (finds_readGiven around secrets).bind_of_found wellFormed

theorem lines_of_yields {incoming : Bytes} {disk : Sandbox.Disk} {command : Command}
    {type : Option ReturnType} {bytes : Bytes} {log : List Gate.LogEntry}
    (yields : around.Yields incoming disk command type bytes log) :
    (carryOut around command (.start incoming disk)).2.lines =
      log.map logLine ++ resultLines type bytes := by
  cases yields with
  | @simulate source args secrets quota maxResponseBytes returnType _ script given _ _
      known readable wellFormed succeeded fits =>
      have ran := simulate_of_found around (.start incoming disk) args quota maxResponseBytes
        known readable wellFormed
      rw [carryOut, ran]
      exact lines_runRead around succeeded fits

/-! ## How commands end -/

theorem exists_input_of_exitCode {session : Session} {command : Command}
    (ended : (perform around session command).exitCode = 2) :
    ∃ message, (carryOut around command session).1 = .error (.input message) := by
  rw [perform] at ended
  split at ended
  next => cases ended
  next complaint after found =>
    rw [found]
    cases complaint with
    | input message => exact ⟨message, rfl⟩
    | other message => cases ended

theorem exitCode_eq_zero_iff {session : Session} {command : Command} :
    (perform around session command).exitCode = 0 ↔ (carryOut around command session).1 = .ok () := by
  rw [perform]
  split
  next found => rw [found]; exact iff_of_true rfl rfl
  next complaint after found =>
    rw [found]
    cases complaint <;> exact ⟨nofun, nofun⟩

theorem session_perform (session : Session) (command : Command) :
    (perform around session command).session = (carryOut around command session).2 := by
  rw [perform]
  split
  next found => rw [found]
  next found => rw [found]

/-- A command that ends with two has done nothing: no script was run, nothing was sent or asked for, and the disk
is as it was. A command to run a script ends with zero exactly if everything that is handed in is in order,
and the script ends with bytes that are not too many; then it has printed the log and those bytes. -/
theorem ending_of_perform (around : Surroundings) (incoming : Bytes) (disk : Sandbox.Disk) :
    (∀ command, (perform around (.start incoming disk) command).exitCode = 2 ->
      let session := (perform around (.start incoming disk) command).session
      session.hasRun = false ∧ session.sent = [] ∧ session.asked = [] ∧ session.disk = disk ∧
        session.lines = []) ∧
    ∀ source args secrets quota maxResponseBytes returnType,
      let command := Command.simulate source args secrets quota maxResponseBytes returnType
      let ending := perform around (.start incoming disk) command
      (ending.exitCode = 0 ↔ ∃ type bytes log, around.Yields incoming disk command type bytes log) ∧
      ∀ type bytes log, around.Yields incoming disk command type bytes log ->
        ending.session.lines = log.map logLine ++ ("Result:  " ++ Sandbox.responseText bytes) ::
          (type.map fun type => "Decoded: " ++ type.decode bytes).toList := by
  refine ⟨fun command ended => ?_, ?_⟩
  · obtain ⟨message, failed⟩ := exists_input_of_exitCode around ended
    have only : (carryOut around command (.start incoming disk)).2 = { Session.start incoming disk with
        incoming := (carryOut around command (.start incoming disk)).2.incoming } :=
      heeds_carryOut around command _ message failed
    intro session
    rw [show session = _ from (session_perform around _ command).trans only]
    exact ⟨rfl, rfl, rfl, rfl, rfl⟩
  · intro source args secrets quota maxResponseBytes returnType command ending
    refine ⟨(exitCode_eq_zero_iff around).trans (simulate_eq_ok_iff around), ?_⟩
    intro type bytes log yields
    rw [show ending.session = _ from session_perform around _ command]
    exact lines_of_yields around yields

/-- Surroundings with one file, in which nobody can be reached. -/
def Surroundings.lonely (path text : String) : Surroundings where
  files := fun other => if other = path then .ok (Text.utf8 text) else .error .missing
  lookup := fun _ => none
  network := ⟨fun _ _ => .unreached⟩
  servers := ⟨fun _ _ _ => .timedOut⟩
  draw := ⟨⟨2, by decide, by decide⟩, List.replicate 16 1, rfl⟩

/-- A script that returns bytes ends with zero. With secrets that are not there it ends with two, and it is
not run. -/
theorem ending_of_perform_lonely :
    let around := Surroundings.lonely "a.js" "return Functions.encodeUint256(1);"
    let command (secrets : Option String) := Command.simulate "a.js" [] secrets none none (some "uint256")
    let lone := perform around (.start [] .blank) (command none)
    let failed := perform around (.start [] .blank) (command (some "-"))
    lone.exitCode = 0 ∧
      (∃ type bytes log, around.Yields [] .blank (command none) type bytes log ∧
        ("Result:  " ++ Sandbox.responseText bytes) ∈ lone.session.lines) ∧
      failed.exitCode = 2 ∧ failed.session.hasRun = false := by
  intro around command lone failed
  have ends : lone.exitCode = 0 := by decide +kernel
  have turnedDown : failed.exitCode = 2 := by decide +kernel
  obtain ⟨idle, simulated⟩ := ending_of_perform around [] .blank
  obtain ⟨inOrder, printed⟩ := simulated "a.js" [] none none none (some "uint256")
  obtain ⟨type, bytes, log, yields⟩ := inOrder.1 ends
  refine ⟨ends, ⟨type, bytes, log, yields, ?_⟩, turnedDown, (idle _ turnedDown).1⟩
  rw [show lone.session.lines = _ from printed type bytes log yields]
  exact List.mem_append_right _ List.mem_cons_self

end ScriptOracle.CommandLine
