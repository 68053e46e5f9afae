import GroupChat.Auth.Tokens
import GroupChat.Json.Printer

/-!
# Requests to connect

A client connects with a request to one path, which shows its token and asks for an upgrade to a
socket. The path is looked at first, then the token, then what an upgrade needs. A page of another
origin may ask too, but may not ask beforehand whether it may.

## Main definitions

- `Request`, `Response`: what is asked and answered.
- `Request.authorize`: the claims of a client that may connect.
- `Request.respond`: the answer.
-/

namespace GroupChat

/-- A request. -/
structure Request where
  /-- What is to be done. -/
  method : String
  /-- The path, with what may stand in front of it and behind it. -/
  path : String
  /-- The headers; of several of one name the last one counts. -/
  headers : List (String × String)
  deriving DecidableEq, Repr

/-- Why a client may not connect with a `Request`. -/
inductive Refusal where
  /-- There is nothing at that path. -/
  | notFound
  /-- The token does not do. -/
  | unauthorized (e : AuthError)
  /-- The request is not one for an upgrade. -/
  | badRequest
  deriving DecidableEq, Repr

/-- The status of a `Refusal`. -/
def Refusal.status : Refusal → Nat
  | .notFound => 404
  | .unauthorized _ => 401
  | .badRequest => 400

/-- The wording of a `Refusal`. -/
def Refusal.message : Refusal → String
  | .notFound => "Not found"
  | .unauthorized e => e.message
  | .badRequest => "Bad request"

/-- The body of the `Response` that refuses with `r`. -/
def Refusal.body (r : Refusal) : String :=
  let code : JsonInt := JsonInt.ofUInt16 r.status.toUInt16
  (Json.object [("code", .int code), ("message", .text r.message)]).render

/-- An answer to a `Request`. -/
structure Response where
  /-- The status. -/
  status : Nat
  /-- The form of the body. -/
  contentType : Option String
  /-- The origin whose pages may use the answer. -/
  allowOrigin : Option String
  /-- The body. -/
  body : String
  deriving DecidableEq, Repr

namespace Request

/-- Whether `a` and `b` are the same but for the case of plain letters. -/
def sameIgnoringCase (a b : String) : Bool := a.toList.map Char.toLower == b.toList.map Char.toLower

/-- The value of the header `name`. -/
def header (r : Request) (name : String) : Option String :=
  (r.headers.reverse.find? fun h => sameIgnoringCase h.1 name).map Prod.snd

/-- What stands in front of a query or a fragment of the `target`. -/
def beforeQuery (target : List Char) : List Char :=
  target.takeWhile fun c => c ≠ '?' && c ≠ '#'

/-- What stands behind the scheme and the mark that follows it, if there is a scheme. -/
def afterScheme : List Char → Option (List Char)
  | [] => none
  | ':' :: '/' :: '/' :: rest => some rest
  | c :: rest =>
    if c.isAlphanum || c == '+' || c == '-' || c == '.' then afterScheme rest else none

/-- The path of a `target`, which begins with a slash or with a scheme and a host. A host may stand
alone, which has no path. -/
def pathOf (target : List Char) : List Char :=
  match target with
  | '/' :: _ => beforeQuery target
  | _ =>
    match afterScheme target with
    | none => []
    | some rest =>
      match (beforeQuery rest).dropWhile (· ≠ '/') with
      | [] => ['/']
      | path => path

/-- Whether the path of `r` is the one for connecting. A slash may stand at its end. -/
def atChat (r : Request) : Bool :=
  let path := pathOf r.path.toList
  path == "/chat".toList || path == "/chat/".toList

/-- Whether the `value` of a header holds plain characters only. -/
def isPlain (value : String) : Bool :=
  value.toList.all fun c => (0x20 ≤ c.toNat && c.toNat < 0x7F) || c == '\t'

/-- The parts of a header between commas; a comma between quotation marks does not count. -/
def commaParts : Bool → List Char → List Char → List (List Char)
  | _, part, [] => [part.reverse]
  | true, part, c :: cs => commaParts (c != '"') (c :: part) cs
  | false, part, c :: cs =>
    if c = ',' then part.reverse :: commaParts false [] cs
    else commaParts (c == '"') (c :: part) cs

/-- Whether the connection of `r` is to be upgraded. -/
def wantsUpgrade (r : Request) : Bool :=
  match r.header "connection" with
  | none => false
  | some value =>
    isPlain value && (commaParts false [] value.toList).any fun part =>
      sameIgnoringCase (String.ofList (Text.trimChars part)) "upgrade"

/-- Whether the request `r` has what an upgrade needs. -/
def isUpgrade (r : Request) : Bool :=
  r.method == "GET" && r.wantsUpgrade
    && (r.header "upgrade").any (sameIgnoringCase · "websocket")
    && r.header "sec-websocket-version" == some "13"
    && (r.header "sec-websocket-key").isSome

/-- Whether a page asks beforehand with `r` whether it may connect. -/
def isPreflight (r : Request) : Bool := r.method == "OPTIONS" && (r.header "origin").isSome

/-- The claims of a client that may connect with `r`. -/
def authorize (tokens : Tokens) (r : Request) : Except Refusal Claims := do
  if r.isPreflight then throw .badRequest
  if !r.atChat then throw .notFound
  let authorization := r.header "authorization"
  if authorization.any fun value => !isPlain value then throw .badRequest
  let claims ← (tokens.authenticate authorization).mapError .unauthorized
  if !r.isUpgrade then throw .badRequest
  pure claims

/-- The answer to the request `r`. -/
def respond (tokens : Tokens) (r : Request) : Response :=
  match r.authorize tokens with
  | .ok _ => ⟨101, none, r.header "origin", ""⟩
  | .error refusal => ⟨refusal.status, some "application/json", none, refusal.body⟩

/-- The request of a client for `path` that shows a `token`, if it has one. -/
def connecting (path : String) (token : Option String) : Request where
  method := "GET"
  path := path
  headers :=
    [("connection", "upgrade"), ("upgrade", "websocket"), ("sec-websocket-version", "13"),
      ("sec-websocket-key", "dGhlIHNhbXBsZSBub25jZQ==")]
      ++ (token.map fun t => ("authorization", "Bearer " ++ t)).toList

end Request

end GroupChat
