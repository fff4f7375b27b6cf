/-!
# Reasons

A condition names the reason for its outcome by one word. The HTTP status of a refused request
to the aggregator decides which one it is.
-/

namespace Newsdesk

/-- Why an attempt ended as it did. -/
inductive Reason where
  | sourceRegistered
  | newsFetched
  | aggregatorUnreachable
  | aggregatorBadRequest
  | aggregatorAuthFailed
  | sourceNotFound
  | sourceConflict
  | aggregatorInternalError
  | gatewayError
  | invalidResponse
  | invalidUrl
  | noFeedsResolved
  | unknownFeed
  | kubernetesApiError
  | reconcileFailed
deriving DecidableEq, Repr

namespace Reason

/-- The word for a reason. -/
def name : Reason → String
  | .sourceRegistered => "SourceRegistered"
  | .newsFetched => "NewsFetched"
  | .aggregatorUnreachable => "AggregatorUnreachable"
  | .aggregatorBadRequest => "AggregatorBadRequest"
  | .aggregatorAuthFailed => "AggregatorAuthFailed"
  | .sourceNotFound => "SourceNotFound"
  | .sourceConflict => "SourceConflict"
  | .aggregatorInternalError => "AggregatorInternalError"
  | .gatewayError => "GatewayError"
  | .invalidResponse => "InvalidResponse"
  | .invalidUrl => "InvalidUrl"
  | .noFeedsResolved => "NoFeedsResolved"
  | .unknownFeed => "UnknownFeed"
  | .kubernetesApiError => "KubernetesApiError"
  | .reconcileFailed => "ReconcileFailed"

/-- The reason that an HTTP status of the aggregator stands for. -/
def ofStatus : Nat → Reason
  | 400 => .aggregatorBadRequest
  | 401 => .aggregatorAuthFailed
  | 403 => .aggregatorAuthFailed
  | 404 => .sourceNotFound
  | 409 => .sourceConflict
  | 500 => .aggregatorInternalError
  | 502 => .gatewayError
  | 503 => .gatewayError
  | 504 => .gatewayError
  | _ => .aggregatorUnreachable

/-- What an HTTP status of the aggregator means. -/
def statusMessage (status : Nat) : String :=
  let meaning :=
    match status with
    | 400 => "Invalid request to news aggregator"
    | 401 => "News aggregator authentication required"
    | 403 => "News aggregator authorization failed"
    | 404 => "Source or endpoint not found on news aggregator"
    | 409 => "Source conflicts with an existing aggregator source"
    | 500 => "News aggregator internal error"
    | 502 => "Bad gateway reaching news aggregator"
    | 503 => "News aggregator unavailable"
    | 504 => "Gateway timeout reaching news aggregator"
    | _ => "Unexpected HTTP status from news aggregator"
  meaning ++ " (" ++ toString status ++ ")"

end Reason

end Newsdesk
