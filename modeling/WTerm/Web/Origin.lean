import WTerm.Config.Model
import WTerm.Python.Url

/-!
# The origin of a request

`origin_allowed` compares the `Origin` header with the configured origins or with the `Host`
header. A WebSocket handshake carries the cookies of the browser whatever page opens it, so
the routes look at the origin first.
-/

namespace WTerm

/-- What the routes read of a request or of a handshake. -/
structure Conn where
  /-- `url.scheme`. -/
  scheme : PyStr
  /-- `headers.get`. -/
  headers : String → Option PyStr
  /-- `cookies.get`. -/
  cookies : String → Option PyStr
  /-- `query_params.get`. -/
  query : String → Option PyStr

/-- `"https"`. -/
def https : PyStr := py ['h', 't', 't', 'p', 's']

/-- `"wss"`. -/
def wss : PyStr := py ['w', 's', 's']

/-- `_is_secure`. -/
def isSecure (config : Config) (conn : Conn) : Bool :=
  if PyStr.truthy config.uds then
    let proto := ((conn.headers "x-forwarded-proto").getD https).lower
    decide (proto = https ∨ proto = wss)
  else config.tlsEnabled || decide (conn.scheme = https ∨ conn.scheme = wss)

/-- The origin of a page is compared with the host that its request names. -/
def sameHost (accepts : PyStr → Bool) (config : Config) (conn : Conn) (origin host : PyStr) :
    Except PyException Bool := do
  let parts ← urlsplit accepts origin
  if parts.netloc ≠ host.lower then return false
  -- On the standard ports the netloc of a plain origin is the same.
  return if isSecure config conn then parts.scheme = https else true

/-- `origin_allowed`. The exception is the one of `urlsplit`. -/
def originAllowed (accepts : PyStr → Bool) (config : Config) (conn : Conn) :
    Except PyException Bool :=
  match conn.headers "origin" with
  | none | some [] => .ok false
  | some origin =>
    let origin := origin.rstripSlash.lower
    if config.allowedOrigins ≠ [] then .ok (decide (origin ∈ config.allowedOrigins))
    else match conn.headers "host" with
      | none | some [] => .ok false
      | some host => sameHost accepts config conn origin host

/-- The projects of a configuration have no part in the check. -/
theorem originAllowed_projects (accepts : PyStr → Bool) (config : Config) (conn : Conn)
    (projects : List Project) :
    originAllowed accepts { config with projects := projects } conn =
      originAllowed accepts config conn := rfl

end WTerm
