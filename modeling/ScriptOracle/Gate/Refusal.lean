/-!
# Why a request does not come back with an answer

A `Refusal` is decided by the gate, before or instead of sending. A `Failure` is what the network
reports. Both have a name for the script to test and a text for people to read.
-/

namespace ScriptOracle.Gate

/-- Why the gate sends nothing. -/
inductive Refusal where
  | timeoutTooLarge (timeoutMs maximum : Nat)
  | urlTooLong (length maximum : Nat)
  | quotaExceeded (quota : Nat)
  | bodyTooLarge (length maximum : Nat)
  | invalidRequest (reason : String)
  | aborted
deriving DecidableEq, Repr

def Refusal.name : Refusal -> String
  | .timeoutTooLarge _ _ => "TimeoutTooLarge"
  | .urlTooLong _ _ => "UrlTooLong"
  | .quotaExceeded _ => "QuotaExceeded"
  | .bodyTooLarge _ _ => "BodyTooLarge"
  | .invalidRequest _ => "InvalidRequest"
  | .aborted => "RunAborted"

def Refusal.message : Refusal -> String
  | .timeoutTooLarge _ maximum => s!"HTTP request timeout >{maximum}"
  | .urlTooLong _ maximum => s!"HTTP request URL length >{maximum}"
  | .quotaExceeded _ => "exceeded numAllowedQueries"
  | .bodyTooLarge _ maximum => s!"HTTP request body length >{maximum}"
  | .invalidRequest reason => s!"invalid HTTP request: {reason}"
  | .aborted => "run was abandoned by the host"

inductive Failure where
  | http (reason : String)
  | timeout (timeoutMs : Nat)
  | responseTooLarge (maximum : Nat)
  | unsupportedMethod (method : String)
deriving DecidableEq, Repr

def Failure.name : Failure -> String
  | .http _ => "HttpError"
  | .timeout _ => "TimeoutError"
  | .responseTooLarge _ => "ResponseTooLarge"
  | .unsupportedMethod _ => "UnsupportedMethod"

def Failure.message : Failure -> String
  | .http reason => s!"http: {reason}"
  | .timeout timeoutMs => s!"timeout of {timeoutMs}ms exceeded"
  | .responseTooLarge maximum => s!"maxContentLength size of {maximum} exceeded"
  | .unsupportedMethod method => s!"unsupported method: {method}"

end ScriptOracle.Gate
