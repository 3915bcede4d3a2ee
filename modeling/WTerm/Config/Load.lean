import Mathlib.Data.List.Sort
import WTerm.Config.Model
import WTerm.Python.Json
import WTerm.Python.Url

/-!
# `load_config`

The checks of `projects.json`, in the order of the source. What the loader asks the system,
`argon2` and `ipaddress` is a parameter.
-/

namespace WTerm

/-- What `load_config` asks. -/
structure LoadEnv where
  /-- `PasswordHasher().verify` understands the hash. -/
  hashValid : PyStr → Bool
  /-- The checks of a netloc in `urlsplit`. -/
  acceptsNetloc : PyStr → Bool
  /-- `ipaddress.ip_address(host).is_loopback`, false for a text that is no address. -/
  isLoopbackAddress : PyStr → Bool
  /-- `str(Path(path).resolve())`, unless it raises. -/
  resolve : PyStr → Option PyStr
  /-- `Path(path).is_dir()`. -/
  isDir : PyStr → Bool

/-- The `ValueError`s of `load_config`. -/
inductive ConfigError where
  /-- `projects.json 최상위 값은 객체여야 함` -/
  | notObject
  /-- `host는 비어 있지 않은 문자열이어야 함` -/
  | host
  /-- `{name}는 정수여야 함` -/
  | notInteger (name : String)
  /-- `{name}는 {minimum}..{maximum} 범위여야 함` -/
  | outOfRange (name : String) (minimum maximum : ℤ)
  /-- `{name}는 문자열이어야 함` -/
  | notString (name : String)
  /-- `password_hash는 유효한 Argon2id 해시여야 함` -/
  | passwordHash
  /-- `allowed_origins는 문자열 배열이어야 함` -/
  | originsNotArray
  /-- `allowed_origins는 비어 있지 않은 문자열 배열이어야 함` -/
  | originEmpty
  /-- `allowed_origins에 유효하지 않은 origin이 있음`, or the `ValueError` of `urlsplit` -/
  | originInvalid
  /-- `allowed_origins에는 path/query/fragment 없는 완전한 origin만 허용` -/
  | originIncomplete
  /-- `tls_certfile과 tls_keyfile은 함께 지정해야 함` -/
  | tlsPair
  /-- `allow_insecure_tcp는 bool이어야 함` -/
  | allowInsecureTcp
  /-- `projects는 배열이어야 함` -/
  | projectsNotArray
  /-- `projects[{index}]는 객체여야 함` -/
  | projectNotObject (index : ℕ)
  /-- `projects[{index}].name은 비어 있지 않은 문자열이어야 함` -/
  | projectName (index : ℕ)
  /-- `중복 프로젝트 이름: {name!r}` -/
  | duplicateName (name : PyStr)
  /-- `프로젝트 {name!r}: path는 비어 있지 않은 문자열이어야 함` -/
  | projectPath (name : PyStr)
  /-- `프로젝트 {name!r}: ssh는 비어 있지 않은 문자열이어야 함` -/
  | projectSsh (name : PyStr)
  /-- The exception of `resolve`. -/
  | unresolved (path : PyStr)
  /-- `프로젝트 {project_name!r}: args는 객체여야 함` -/
  | argsNotObject (project : PyStr)
  /-- `프로젝트 {project_name!r}: 지원하지 않는 args 대상: {names}` -/
  | argsUnknown (project : PyStr) (names : List PyStr)
  /-- `프로젝트 {project_name!r}: args.{agent}는 문자열 배열이어야 함` -/
  | argsNotStrings (project agent : PyStr)
  /-- `프로젝트 {project_name!r}: 실행 인자에 NUL을 넣을 수 없음` -/
  | argsNul (project : PyStr)
  /-- `프로젝트 {project_name!r}: args에 옵션 종결자 --를 넣을 수 없음` -/
  | argsTerminator (project : PyStr)
  /-- `프로젝트 {project_name!r}: env는 객체여야 함` -/
  | envNotObject (project : PyStr)
  /-- `프로젝트 {project_name!r}: 잘못된 환경변수 이름: {key!r}` -/
  | envName (project key : PyStr)
  /-- `프로젝트 {project_name!r}: TERM은 W-Term이 관리함` -/
  | envTerm (project : PyStr)
  /-- `프로젝트 {project_name!r}: env.{key}는 문자열이어야 함` -/
  | envNotString (project key : PyStr)
  /-- `프로젝트 {project_name!r}: env.{key}에 NUL을 넣을 수 없음` -/
  | envNul (project key : PyStr)
  /-- `loopback 밖의 TCP bind에는 인증이 필요함; ...` -/
  | needsAuth
  /-- `loopback 밖의 평문 TCP bind는 거부됨; ...` -/
  | needsTls
  deriving DecidableEq

/-- The members of a decoded object: each key at its first place, with its last value. -/
def Json.items (members : List (PyStr × Json)) : List (PyStr × Json) :=
  (members.map Prod.fst).reverse.dedup.reverse.filterMap fun key =>
    (Json.get members key).map fun value => (key, value)

/-- `raw.get(name)` in an object of the configuration. -/
def field (raw : List (PyStr × Json)) (name : String) : Option Json :=
  Json.get raw (py name.toList)

/-! ## One field -/

/-- `_integer`. `isinstance(value, bool)` is refused first. -/
def integer (raw : List (PyStr × Json)) (name : String) (default minimum maximum : ℤ) :
    Except ConfigError ℤ :=
  match field raw name with
  | none => .ok default
  | some (.int value) =>
    if minimum ≤ value ∧ value ≤ maximum then .ok value
    else .error (.outOfRange name minimum maximum)
  | some _ => .error (.notInteger name)

/-- `_optional_string`. -/
def optionalString (raw : List (PyStr × Json)) (name : String) :
    Except ConfigError (Option PyStr) :=
  match field raw name with
  | none | some .null => .ok none
  | some (.str value) => .ok (if value.strip = [] then none else some value.strip)
  | some _ => .error (.notString name)

/-- `_password_hash`. -/
def passwordHash (env : LoadEnv) (raw : List (PyStr × Json)) :
    Except ConfigError (Option PyStr) := do
  match ← optionalString raw "password_hash" with
  | none => return none
  | some value =>
    if (py "$argon2id$".toList).isPrefixOf value && env.hashValid value then return some value
    else throw .passwordHash

/-! ## Origins -/

namespace SplitResult

/-- `netloc.rpartition("@")`: the user information, if there is any, and the rest. -/
def userInfo (parts : SplitResult) : Option PyStr × PyStr :=
  match parts.netloc.reverse.dropWhile (· ≠ 64) with
  | [] => (none, parts.netloc)
  | _ :: before => (some before.reverse, (parts.netloc.reverse.takeWhile (· ≠ 64)).reverse)

/-- `_hostinfo`: the host and what follows its colon, if that is not empty. -/
def hostInfo (parts : SplitResult) : PyStr × Option PyStr :=
  let info := parts.userInfo.2
  let (host, port) :=
    match PyStr.splitOnce 91 info with
    | (_, some bracketed) =>
      let (host, rest) := PyStr.splitOnce 93 bracketed
      (host, (PyStr.splitOnce 58 (rest.getD [])).2)
    | (_, none) => PyStr.splitOnce 58 info
  (host, port.filter fun port => port ≠ [])

/-- `hostname is not None`. -/
def hasHostname (parts : SplitResult) : Bool := parts.hostInfo.1 ≠ []

/-- Whether `port` does not raise. Of more digits than `int` takes it raises as well. -/
def portValid (parts : SplitResult) : Bool :=
  match parts.hostInfo.2 with
  | none => true
  | some port =>
    port.all PyStr.isAsciiDigit && decide (port.length ≤ Json.intMaxStrDigits) &&
      decide (Json.ofDigits port ≤ 65535)

end SplitResult

/-- The normal form of a configured origin. -/
def normalOrigin (env : LoadEnv) (value : Json) : Except ConfigError PyStr :=
  match value with
  | .str value =>
    if value.strip = [] then .error .originEmpty
    else match urlsplit env.acceptsNetloc value.strip with
      | .error _ => .error .originInvalid
      | .ok parts =>
        if parts.portValid = false then .error .originInvalid
        else if (parts.scheme ≠ py "http".toList ∧ parts.scheme ≠ py "https".toList) ∨
            parts.hasHostname = false ∨ parts.userInfo.1.isSome ∨ parts.path ≠ [] ∨
            parts.query ≠ [] ∨ parts.fragment ≠ [] ∨ parts.netloc.any isSpace then
          .error .originIncomplete
        else .ok (parts.scheme ++ py "://".toList ++ parts.netloc.lower)
  | _ => .error .originEmpty

/-- The loop of `_allowed_origins`. -/
def normalOrigins (env : LoadEnv) : List PyStr → List Json → Except ConfigError (List PyStr)
  | result, [] => .ok result
  | result, value :: rest => do
    let origin ← normalOrigin env value
    normalOrigins env (if origin ∈ result then result else result ++ [origin]) rest

/-- `_allowed_origins`. -/
def allowedOrigins (env : LoadEnv) (raw : List (PyStr × Json)) :
    Except ConfigError (List PyStr) :=
  match field raw "allowed_origins" with
  | none => .ok []
  | some (.arr values) => normalOrigins env [] values
  | some _ => .error .originsNotArray

/-! ## Projects -/

/-- `isinstance(v, str)` of all values, with the values. -/
def asStrings? : List Json → Option (List PyStr)
  | [] => some []
  | .str value :: rest => (asStrings? rest).map fun values => value :: values
  | _ :: _ => none

/-- The agents that `args` can name. -/
def projectArgAgents : List PyStr := [py "claude".toList, py "codex".toList]

/-- One agent of `_project_args`. -/
def agentArgs (project : PyStr) (entry : PyStr × Json) :
    Except ConfigError (PyStr × List PyStr) :=
  match entry.2 with
  | .arr items =>
    match asStrings? items with
    | none => .error (.argsNotStrings project entry.1)
    | some values =>
      if values.any fun value => 0 ∈ value then .error (.argsNul project)
      else if py "--".toList ∈ values then .error (.argsTerminator project)
      else .ok (entry.1, values)
  | _ => .error (.argsNotStrings project entry.1)

/-- `sorted` of strings, which are compared code point by code point. -/
def PyStr.sorted (texts : List PyStr) : List PyStr :=
  texts.insertionSort fun a b => b.lex a (fun c d => decide (c < d)) = false

/-- `_project_args`. -/
def projectArgs (project : PyStr) : Option Json → Except ConfigError (List (PyStr × List PyStr))
  | none | some .null => .ok []
  | some (.obj members) =>
    let unknown := (Json.items members).filter fun entry => entry.1 ∉ projectArgAgents
    if unknown ≠ [] then .error (.argsUnknown project (PyStr.sorted (unknown.map Prod.fst)))
    else (Json.items members).mapM (agentArgs project)
  | some _ => .error (.argsNotObject project)

/-- `ENV_NAME_RE.fullmatch`. -/
def isEnvName (name : PyStr) : Bool :=
  name.head?.any (fun c => PyStr.isAsciiAlpha c || c = 95) &&
    name.all fun c => PyStr.isAsciiAlpha c || PyStr.isAsciiDigit c || c = 95

/-- One variable of `_project_env`. -/
def envEntry (project : PyStr) (entry : PyStr × Json) : Except ConfigError (PyStr × PyStr) :=
  if isEnvName entry.1 = false then .error (.envName project entry.1)
  else if entry.1 = py "TERM".toList then .error (.envTerm project)
  else match entry.2 with
    | .str value => if 0 ∈ value then .error (.envNul project entry.1) else .ok (entry.1, value)
    | _ => .error (.envNotString project entry.1)

/-- `_project_env`. -/
def projectEnv (project : PyStr) : Option Json → Except ConfigError (List (PyStr × PyStr))
  | none | some .null => .ok []
  | some (.obj members) => (Json.items members).mapM (envEntry project)
  | some _ => .error (.envNotObject project)

/-- A value that has to be a string with more than blanks in it. -/
def filledString (value : Option Json) (error : ConfigError) : Except ConfigError PyStr :=
  match value with
  | some (.str value) => if value.strip = [] then .error error else .ok value.strip
  | _ => .error error

/-- `ssh`, which may be absent. -/
def projectSsh (project : PyStr) (value : Option Json) : Except ConfigError (Option PyStr) :=
  match value with
  | none | some .null => .ok none
  | some value => (filledString (some value) (.projectSsh project)).map some

/-- The name of an entry, which no earlier entry may have. -/
def projectName (index : ℕ) (names : List PyStr) (item : List (PyStr × Json)) :
    Except ConfigError PyStr := do
  let name ← filledString (field item "name") (.projectName index)
  if name ∈ names then throw (.duplicateName name)
  return name

/-- The rest of an entry. A local project without its directory is left out. -/
def loadProject (env : LoadEnv) (name : PyStr) (item : List (PyStr × Json)) :
    Except ConfigError (Option Project) := do
  let path ← filledString (field item "path") (.projectPath name)
  let ssh ← projectSsh name (field item "ssh")
  let args ← projectArgs name (field item "args")
  let vars ← projectEnv name (field item "env")
  match ssh with
  | some host => return some ⟨name, path, some host, args, vars⟩
  | none =>
    match env.resolve path with
    | none => throw (.unresolved path)
    | some resolved =>
      return if env.isDir resolved then some ⟨name, resolved, none, args, vars⟩ else none

/-- The loop over the entries. -/
def loadProjects (env : LoadEnv) :
    ℕ → List PyStr → List Json → Except ConfigError (List Project)
  | _, _, [] => .ok []
  | index, names, .obj item :: rest => do
    let name ← projectName index names item
    let project ← loadProject env name item
    let projects ← loadProjects env (index + 1) (name :: names) rest
    return project.toList ++ projects
  | index, _, _ :: _ => .error (.projectNotObject index)

/-! ## The whole file -/

/-- `_is_loopback_host`. -/
def isLoopbackHost (env : LoadEnv) (host : PyStr) : Bool :=
  decide (host.lower = py "localhost".toList) || env.isLoopbackAddress host

/-- The last check: outside loopback TCP needs authentication and TLS. -/
def checkListener (env : LoadEnv) (config : Config) : Except ConfigError Config :=
  if config.uds = none ∧ isLoopbackHost env config.host = false ∧
      config.allowInsecureTcp = false then
    if config.passwordHash = none then .error .needsAuth
    else if config.tlsEnabled = false then .error .needsTls
    else .ok config
  else .ok config

/-- `host`. -/
def loadHost (raw : List (PyStr × Json)) : Except ConfigError PyStr :=
  match field raw "host" with
  | none => .ok (py "127.0.0.1".toList)
  | value => filledString value .host

/-- `allow_insecure_tcp`. -/
def loadAllowInsecureTcp (raw : List (PyStr × Json)) : Except ConfigError Bool :=
  match field raw "allow_insecure_tcp" with
  | none => .ok false
  | some (.bool value) => .ok value
  | some _ => .error .allowInsecureTcp

/-- `projects`. -/
def loadProjectItems (raw : List (PyStr × Json)) : Except ConfigError (List Json) :=
  match field raw "projects" with
  | none => .ok []
  | some (.arr items) => .ok items
  | some _ => .error .projectsNotArray

/-- `load_config` for the value that `json.loads` returns. -/
def loadConfig (env : LoadEnv) : Json → Except ConfigError Config
  | .obj raw => do
    let host ← loadHost raw
    let port ← integer raw "port" 8877 1 65535
    let graceSeconds ← integer raw "grace_seconds" 60 0 (24 * 60 * 60)
    let idleSeconds ← integer raw "idle_seconds" 0 0 (365 * 24 * 60 * 60)
    let uds ← optionalString raw "uds"
    let hash ← passwordHash env raw
    let origins ← allowedOrigins env raw
    let certfile ← optionalString raw "tls_certfile"
    let keyfile ← optionalString raw "tls_keyfile"
    if certfile.isSome ≠ keyfile.isSome then throw .tlsPair
    let insecure ← loadAllowInsecureTcp raw
    let items ← loadProjectItems raw
    let projects ← loadProjects env 0 [] items
    checkListener env
      { host := host
        port := port.toNat
        uds := uds
        graceSeconds := graceSeconds.toNat
        idleSeconds := idleSeconds.toNat
        passwordHash := hash
        allowedOrigins := origins
        tlsCertfile := certfile
        tlsKeyfile := keyfile
        allowInsecureTcp := insecure
        projects := projects }
  | _ => .error .notObject

end WTerm
