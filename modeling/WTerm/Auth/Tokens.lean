import WTerm.Auth.Login
import WTerm.Web.Origin

/-!
# Tokens and the sockets opened with them

The token store of `AuthManager` under the hashes of the tokens, and the registration of
sockets, so that a logout reaches the sockets of its token.
-/

namespace WTerm

/-- `AUTH_COOKIE`. -/
def authCookie : String := "wterm_token"

/-- `AUTH_TOKEN_TTL`. -/
def authTokenTtl : Time := 30 * 24 * 3600 * second

/-- `AUTH_RECHECK_INTERVAL`. -/
def authRecheckInterval : Time := 30 * second

/-- `MAX_TOKENS`. -/
def maxTokens : ℕ := 512

variable {Key : Type} [DecidableEq Key]

/-- `AuthManager`, without the login limits. -/
structure Auth (Key : Type) where
  /-- `_valid_tokens`: when each token was issued. -/
  validTokens : OrderedDict Key Time := .empty
  /-- `_tokens_changed`. -/
  tokensChanged : Bool := false
  /-- `_ws_tokens`, in the order of the registrations. -/
  wsTokens : OrderedDict Ws Key := .empty

namespace Auth

/-- What `_key_valid` answers. -/
def keyValid (auth : Auth Key) (key : Key) (now : Time) : Bool :=
  (auth.validTokens.get key).any fun issuedAt => decide (now - issuedAt < authTokenTtl)

/-- What `_key_valid` does to the store: an expired token is removed. -/
def checkKey (auth : Auth Key) (key : Key) (now : Time) : Auth Key :=
  match auth.validTokens.get key with
  | none => auth
  | some issuedAt =>
    if now - issuedAt < authTokenTtl then auth
    else { auth with validTokens := auth.validTokens.erase key, tokensChanged := true }

/-- The key of the token in a request. `tokenKey` is `_token_key`. -/
def requestKey (tokenKey : PyStr → Key) (conn : Conn) : Option Key :=
  (conn.cookies authCookie).map tokenKey

/-- What `is_authed` answers. -/
def isAuthed (auth : Auth Key) (tokenKey : PyStr → Key) (passwordHash : Option PyStr)
    (conn : Conn) (now : Time) : Bool :=
  passwordHash.isNone || (requestKey tokenKey conn).any fun key => auth.keyValid key now

/-- What `is_authed` does to the store. -/
def checkAuthed (auth : Auth Key) (tokenKey : PyStr → Key) (passwordHash : Option PyStr)
    (conn : Conn) (now : Time) : Auth Key :=
  if passwordHash.isNone then auth
  else match requestKey tokenKey conn with
    | none => auth
    | some key => auth.checkKey key now

/-- `register_socket`: without a token in a nonempty cookie there is nothing to register. -/
def registerSocket (auth : Auth Key) (tokenKey : PyStr → Key) (passwordHash : Option PyStr)
    (conn : Conn) (ws : Ws) : Auth Key :=
  if passwordHash.isNone then auth
  else match conn.cookies authCookie with
    | none | some [] => auth
    | some token => { auth with wsTokens := auth.wsTokens.push ws (tokenKey token) }

/-- `_issue_token`, for a new key: expired tokens are removed, and the oldest ones beyond the
limit. -/
def issueToken (auth : Auth Key) (key : Key) (now : Time) : Auth Key :=
  let kept := auth.validTokens.keep fun issuedAt => decide (now - issuedAt < authTokenTtl)
  let added := kept.push key now
  { auth with
    validTokens := added.evict maxTokens
    tokensChanged := auth.tokensChanged ||
      decide (kept.entries.length < auth.validTokens.entries.length) ||
      decide (maxTokens < added.entries.length) }

/-- The token that `logout` takes out. -/
def revokeToken (auth : Auth Key) (key : Key) : Auth Key :=
  { auth with validTokens := auth.validTokens.erase key }

/-- The sockets that `_revoke_token_sockets` closes, in the order of their registration. -/
def tokenSockets (auth : Auth Key) (key : Key) : List Ws :=
  (auth.wsTokens.entries.filter fun entry => decide (entry.2 = key)).map Prod.fst

/-- `unregister_socket`. -/
def unregisterSocket (auth : Auth Key) (ws : Ws) : Auth Key :=
  { auth with wsTokens := auth.wsTokens.erase ws }

end Auth

end WTerm
