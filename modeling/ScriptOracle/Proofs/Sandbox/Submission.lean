import ScriptOracle.Proofs.Json.Fields
import ScriptOracle.Proofs.Secrets.Config
import ScriptOracle.Sandbox.Submission

/-!
# Configurations as submissions

The configuration of a request can be handed in as a submission, for a run of the same script. Each field
is read twice then, by readers that do not know of each other. Whatever is in order as a configuration is in
order as a submission, and asks for the same; what it leaves out is taken from the defaults.
-/

namespace ScriptOracle.Sandbox

open Secrets (Config)

namespace Submission

variable {input : Json}

/-! ## Field by field -/

theorem readSource_of_config {source : String} (done : Config.readSource input = .ok source) :
    readSource input = .ok source := by
  rw [readSource, Config.readSource_eq_ok done]

theorem readArgs_of_config {args : Option (List String)}
    (done : Config.readArgs input = .ok args) : readArgs input = .ok (args.getD []) := by
  unfold Config.readArgs at done
  unfold readArgs
  cases given : input.given? "args" with
  | none =>
      simp only [given] at done ⊢
      cases done
      rfl
  | some value =>
      simp only [given] at done ⊢
      cases value with
      | array items =>
          cases all : Json.asStrings? items with
          | none =>
              simp only [all] at done
              cases done
          | some texts =>
              simp only [all] at done ⊢
              cases done
              rfl
      | _ => cases done

theorem readSecrets_of_config {secrets : Option (Fields String)}
    (done : Config.readSecrets input = .ok secrets) : readSecrets input = .ok secrets := by
  unfold Config.readSecrets at done
  unfold readSecrets
  cases given : input.given? "secrets" with
  | none =>
      simp only [given] at done ⊢
      cases done
      rfl
  | some value =>
      simp only [given] at done ⊢
      cases value with
      | object fields =>
          cases all : Json.asStringFields? fields with
          | none =>
              simp only [all] at done
              cases done
          | some texts =>
              simp only [all] at done ⊢
              cases done
              rfl
      | _ => cases done

/-- A number of a configuration has thirty-two bits, and no bound of a submission is lower. -/
theorem numberField_of_config {name : String} {number : Option Nat}
    (done : Config.readNumber input name = .ok number) {bound : Nat} (wide : (1 <<< 32) - 1 ≤ bound)
    (usual : Nat) (fault : InputFault) :
    numberField input name bound usual fault = .ok (number.getD usual) := by
  unfold Config.readNumber at done
  unfold numberField
  split at done
  next absent =>
    cases done
    rw [absent]
    rfl
  next n found =>
    rw [found]
    split at done
    next inside =>
      cases done
      obtain ⟨positive, small⟩ := inside
      have fits : n.toNat ≤ bound := by
        have : n.toNat < 1 <<< 32 := (Int.toNat_lt positive).2 small
        omega
      simp only [wholeNumber?, if_pos positive, Option.filter_some, fits, decide_true, if_true,
        Option.getD_some]
    next => cases done
  next => cases done

/-- There is no option for the mark that a caller wants back. -/
theorem readRequestId_of_config {fields : Fields Json}
    (known : Config.checkNames fields = .ok ()) : readRequestId (.object fields) = .ok none := by
  have absent : fields.get? "requestId" = none := by
    refine Fields.get?_eq_none fun member => ?_
    exact absurd (Config.checkNames_eq_ok known _ member) (by decide)
  have notGiven : (Json.object fields).given? "requestId" = none := by
    rw [Json.given?, Json.get?, absent]
    rfl
  rw [readRequestId, notGiven]

/-! ## All fields -/

/-- The submission that a configuration stands for. -/
def ofConfig (defaults : Defaults) (config : Config) : Submission where
  request := ⟨config.source, config.args.getD [], config.secrets, config.quota.getD defaults.quota⟩
  maxResponseBytes := config.maxResponseBytes.getD defaults.maxResponseBytes
  requestId := none

/-- Whatever is in order as a configuration is in order as a submission. It asks for the same script with
the same arguments and secrets, for as many requests and as many bytes as the configuration says, or else as
is usual, and it has no mark. -/
theorem read_eq_ofConfig (defaults : Defaults) {config : Config}
    (done : Config.read input = .ok config) :
    read defaults input = .ok (ofConfig defaults config) := by
  obtain ⟨fields, rfl, known, parts⟩ := Config.exists_fields_of_read done
  have quota := numberField_of_config parts.quota (Nat.le_refl _) defaults.quota .quota
  have maxResponseBytes := numberField_of_config parts.maxResponseBytes
    (show _ ≤ maxWord by decide) defaults.maxResponseBytes .maxResponseBytes
  rw [read, readSource_of_config parts.source, readRequestId_of_config known, quota,
    readArgs_of_config parts.args, readSecrets_of_config parts.secrets, maxResponseBytes]
  rfl

/-- A configuration in which some fields are given, and others count as left out. -/
def sparseInput : Json := .object [
  ("numAllowedQueries", .integer 3), ("codeLanguage", .integer 0), ("args", .string ""),
  ("secrets", .object [("b", .string "two"), ("a", .string "one")]), ("maxResponseBytes", .bool false),
  ("codeLocation", .string "Inline"), ("source", .string "return Functions.encodeUint256(1)")]

theorem read_eq_ofConfig_sparse :
    let config : Config := ⟨"return Functions.encodeUint256(1)", none,
      some [("a", "one"), ("b", "two")], [], none, none, none, some 3, none⟩
    Config.read sparseInput = .ok config ∧
      read ⟨256, 5⟩ sparseInput =
        .ok ⟨⟨"return Functions.encodeUint256(1)", [], some [("a", "one"), ("b", "two")], 3⟩, 256, none⟩ := by
  intro config
  have inOrder : Config.read sparseInput = .ok config := rfl
  exact ⟨inOrder, read_eq_ofConfig ⟨256, 5⟩ inOrder⟩

end Submission

end ScriptOracle.Sandbox
