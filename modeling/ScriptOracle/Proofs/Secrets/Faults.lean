import ScriptOracle.Proofs.Except
import ScriptOracle.Secrets.Package

/-!
# What is put down to a configuration

A fault is put down to the configuration only while it is read and the encryption is planned. Once documents
are asked for or anything is encrypted, whatever goes wrong has another name. So nothing was done for a
configuration that is at fault.
-/

namespace ScriptOracle.Secrets

/-- The result is not put down to a configuration. -/
def Unblamed {α : Type} (result : Except Fault α) : Prop := ∀ fault, result ≠ .error (.config fault)

namespace Unblamed

variable {α β : Type} {result : Except Fault α}

theorem ok (value : α) : Unblamed (.ok value) := fun _ failed => nomatch failed

theorem bind (unblamed : Unblamed result) {next : α -> Except Fault β}
    (others : ∀ value, Unblamed (next value)) : Unblamed (result >>= next) := by
  intro fault failed
  rcases or_of_bind_eq_error failed with first | ⟨value, -, second⟩
  · exact unblamed fault first
  · exact others value fault second

theorem map (unblamed : Unblamed result) (f : α -> β) : Unblamed (result.map f) := by
  cases result with
  | ok value => exact .ok _
  | error other =>
      intro fault failed
      cases failed
      exact unblamed fault rfl

end Unblamed

/-! ## Documents -/

theorem unblamed_warningsFor (hosted : Hosted) (nodes : List String) :
    Unblamed (hosted.warningsFor nodes) := by
  induction nodes with
  | nil => exact .ok _
  | cons address rest ih =>
      rw [Hosted.warningsFor]
      split
      next => exact ih
      next =>
        split
        next => exact ih.bind fun _ => .ok _
        next => exact fun _ failed => nomatch failed

theorem unblamed_checkAll (firstUrl text : String) (nodes : List String) (documents : List Hosted) :
    Unblamed (Hosted.checkAll firstUrl text nodes documents) := by
  induction documents with
  | nil => exact .ok _
  | cons hosted rest ih =>
      rw [Hosted.checkAll]
      split
      next => exact fun _ failed => nomatch failed
      next => exact (unblamed_warningsFor hosted nodes).bind fun _ => ih.bind fun _ => .ok _

theorem unblamed_agreement (documents : List Hosted) (nodes : List String) :
    Unblamed (Agreement.check documents nodes) := by
  cases documents with
  | nil => exact .ok _
  | cons first rest => exact (unblamed_checkAll _ _ _ _).bind fun _ => .ok _

namespace Verifier

variable (verifier : Verifier) (servers : Servers)

theorem unblamed_fetchAll (before urls : List String) :
    Unblamed (verifier.fetchAll servers before urls).2 := by
  induction urls generalizing before with
  | nil => exact .ok _
  | cons url rest ih =>
      rw [fetchAll, fetch]
      cases (verifier.receive (servers.deliver before url verifier.timeoutMs)).2 with
      | error fault => exact fun _ failed => nomatch failed
      | ok document => exact (ih _).map _

theorem unblamed_check (urls nodes : List String) :
    Unblamed (verifier.check servers urls nodes).2 :=
  (verifier.unblamed_fetchAll servers [] urls).bind fun _ => unblamed_agreement _ _

end Verifier

/-! ## Packages -/

namespace Plan

theorem unblamed_marked (result : Except EncryptionFault String) : Unblamed (marked result) := by
  cases result with
  | ok text => exact .ok _
  | error fault => exact fun _ failed => nomatch failed

theorem unblamed_carryOut (plan : Plan) (servers : Servers) (draw : Draw) (nodes : List String) :
    Unblamed (plan.carryOut servers draw nodes).2 := by
  cases plan with
  | nothing => exact .ok _
  | inline walletKey publicKey secrets =>
      simp only [carryOut]
      exact unblamed_marked _
  | hosted publicKey urls =>
      have unblamed : Unblamed (if nodes = [] then ([], .ok ⟨0, []⟩)
          else Verifier.usual.check servers urls nodes).2 := by
        split
        next => exact .ok _
        next => exact Verifier.unblamed_check _ _ _ _
      simp only [carryOut]
      exact unblamed.bind fun _ => unblamed_marked _

end Plan

namespace Package

theorem unblamed_make (servers : Servers) (draw : Draw) (config : Config) (plan : Plan)
    (nodes : List String) : Unblamed (make servers draw config plan nodes).2 := by
  rw [make]
  exact (plan.unblamed_carryOut servers draw nodes).map _

/-- If a configuration is at fault, no documents were asked for. -/
theorem asked_of_config_fault {servers : Servers} {draw : Draw} {input : Json}
    {nodes : List String} {fault : ConfigFault}
    (failed : (build servers draw input nodes).2 = .error (.config fault)) :
    (build servers draw input nodes).1 = [] := by
  unfold build at failed ⊢
  generalize (do
    let config ← Config.read input
    let plan ← config.plan
    pure (config, plan) : Except ConfigFault (Config × Plan)) = prepared at failed ⊢
  cases prepared with
  | error fault => rfl
  | ok both => exact absurd failed (unblamed_make _ _ _ _ _ fault)

end Package

end ScriptOracle.Secrets
