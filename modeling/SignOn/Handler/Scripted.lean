import SignOn.Handler.Caller

/-!
A handler whose answers are settled in advance. It stands for any protocol that is not built in:
what it answers is arbitrary, what it is asked is noted, and it may fail to initialise a number of
times before it succeeds. An answer that was settled badly fails when it is asked for.
-/

namespace SignOn

structure ScriptedLogin where
  direct : Bool := false
  outcome : Checked Outcome := .valid (.redirect (.redirect "https://idp.example.com/authorize"))
  challenge : Option (Checked Outcome) := none
  credentials : Checked (Option Credentials) := .valid none
  profile : Checked (Option Profile) := .valid (some { id := "jdoe" })
  initFailures : Nat := 0
  problems : List String := []

namespace ScriptedLogin

def start (script : ScriptedLogin) : Exchange Unit := do
  let earlier := (← Exchange.state).progress.calls.count .start
  Exchange.note .start
  if earlier < script.initFailures then Exchange.fail .notReady else pure ()

def redirect (script : ScriptedLogin) : Exchange Outcome := do
  Exchange.note .redirectOutcome
  Exchange.settle script.outcome

def extract (script : ScriptedLogin) : Exchange (Option Credentials) := do
  Exchange.note .extractCredentials
  match script.challenge with
  | none => Exchange.settle script.credentials
  | some challenge =>
    match ← Exchange.settle challenge with
    | .http action => Exchange.fail (.interrupted action)
    | .redirect _ => Exchange.fail .noContinuation

def buildProfile (script : ScriptedLogin) : Exchange (Option Profile) := do
  Exchange.note .buildProfile
  Exchange.settle script.profile

end ScriptedLogin

end SignOn
