/-! What a gateway records about its work: a list of events, and the counters, gauges and samples that they add up to. -/

namespace CredentialGateway

inductive RetryOutcome
  | success
  | forbidden
  | error
  deriving DecidableEq, Repr

inductive Metric
  | request (method : String) (status millis : Nat)
  | cacheLookup (hit : Bool)
  | cacheSize (entries : Nat)
  | tokenFetch (success : Bool)
  | forbiddenRetry (outcome : RetryOutcome)
  deriving DecidableEq, Repr

/-- The events that were recorded, the last one first. -/
abbrev Metrics := List Metric

namespace Metrics

inductive Value
  | number (n : Nat)
  | samples (millis : List Nat)
  deriving DecidableEq, Repr

def labelled (name : String) (labels : List (String × String)) : String :=
  name ++ "\x7b" ++ ",".intercalate (labels.map fun l => l.1 ++ "=" ++ l.2) ++ "\x7d"

def outcomeName : RetryOutcome → String
  | .success => "success"
  | .forbidden => "forbidden"
  | .error => "error"

/-- The names under which an event counts, each with the way it changes what is shown there. -/
def effects : Metric → List (String × (Value → Value))
  | .request method status millis =>
    let labels := [("method", method), ("status", toString status)]
    [(labelled "proxy_requests_total" labels, increment),
      (labelled "proxy_request_duration_seconds" labels, sample millis)]
  | .cacheLookup hit => [(labelled "proxy_cache_lookups_total" [("result", if hit then "hit" else "miss")], increment)]
  | .cacheSize entries => [("proxy_cache_entries", fun _ => .number entries)]
  | .tokenFetch success =>
    [(labelled "proxy_token_fetches_total" [("outcome", if success then "success" else "failure")], increment)]
  | .forbiddenRetry outcome =>
    [(labelled "proxy_forbidden_retries_total" [("outcome", outcomeName outcome)], increment)]
where
  increment : Value → Value
    | .number n => .number (n + 1)
    | .samples ms => .samples ms
  sample (millis : Nat) : Value → Value
    | .number _ => .samples [millis]
    | .samples ms => .samples (ms ++ [millis])

/-- Changes what is shown under a name; a name that was never recorded starts from zero. -/
def update (shown : List (String × Value)) (name : String) (change : Value → Value) : List (String × Value) :=
  if shown.any fun v => v.1 == name then
    shown.map fun v => if v.1 == name then (name, change v.2) else v
  else shown ++ [(name, change (.number 0))]

def report (m : Metrics) : List (String × Value) :=
  -- Events are kept with the last one first.
  (m.reverse.flatMap effects).foldl (fun shown e => update shown e.1 e.2) []

def cacheEntries : Metrics → Nat
  | [] => 0
  | .cacheSize n :: _ => n
  | _ :: earlier => cacheEntries earlier

end Metrics
end CredentialGateway
