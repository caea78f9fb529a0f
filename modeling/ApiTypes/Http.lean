import ApiTypes.Text

/-!
# Requests to servers

A specification may be requested from a server.  Only the status 200 brings one.
-/

namespace ApiTypes

/-- How long to wait for a server, in seconds. -/
def defaultTimeout : Nat := 30

structure RetryPolicy where
  total : Nat
  /-- Tenths of a second by which the pauses grow. -/
  pauseTenths : Nat
  /-- The answers of a server after which a request is repeated. -/
  statuses : List Nat
  deriving DecidableEq

namespace RetryPolicy

/-- Three repetitions after passing troubles of a server. -/
def standard : RetryPolicy :=
  { total := 3, pauseTenths := 5, statuses := [500, 502, 503, 504] }

/-- The openings of the addresses that can be requested. -/
def schemes : List Text := ["https://", "http://"]

/-- The policy for an address, if it can be requested. -/
def ofUrl? (url : Text) : Option RetryPolicy :=
  if schemes.any fun scheme => (url.toAsciiLower.after? scheme).isSome then some standard
  else none

end RetryPolicy

structure Request where
  url : Text
  credentials : Option (Text × Text)
  /-- How long to wait, in seconds. -/
  timeout : Nat
  /-- When to ask again; there is no policy for an address that cannot be requested. -/
  retries : Option RetryPolicy
  deriving DecidableEq

inductive Reaction where
  | response (status : Int) (reason : Text) (content : Bytes)
  | noResponse (reason : Text)
  /-- The request breaks off for a reason that is no failure of transport. -/
  | broken (report : Text)
  deriving DecidableEq

structure FetchFault where
  url : Text
  reason : Text
  status : Option Int
  deriving DecidableEq

inductive RequestFault where
  | fetch (fault : FetchFault)
  | broken (report : Text)
  deriving DecidableEq

namespace RequestFault

/-- The report of a request without success. -/
def message : RequestFault → Text
  | .fetch fault => "Failed to fetch " ++ fault.url ++ ": " ++ fault.reason
  | .broken report => report

end RequestFault

namespace Request

/-- A request with a password, empty unless it is given, for a user if there is one. -/
def make (url : Text) (user password : Option Text) (timeout : Nat := defaultTimeout) : Request :=
  { url, timeout
    credentials := user.map fun user => (user, password.getD [])
    retries := RetryPolicy.ofUrl? url }

def outcome (request : Request) : Reaction → Except RequestFault Bytes
  | .broken report => .error (.broken report)
  | .noResponse reason => .error (.fetch { url := request.url, reason, status := none })
  | .response status reason content =>
      if status = 200 then .ok content
      else
        .error (.fetch
          { url := request.url
            reason := "HTTP " ++ Text.ofInt status ++ " " ++ reason
            status := some status })

end Request

end ApiTypes
