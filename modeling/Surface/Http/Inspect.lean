import Surface.Dns.Mail
import Surface.Model.Observation
import Surface.Ordered
import Surface.Text

/-!
# Surface.Http.Inspect

The inspection of one HTTP endpoint.

* `UrlLibrary`, `HttpMeeting`: the library on URLs, and what the inspection meets.
* `parseCookie`, `extractTitle`, `readBody`: what is kept of a response.
* `fetchPage`: the requests along the redirects. It keeps the requests it makes.
* `inspectInner`: the observation.
-/

namespace Surface

def maxBodyBytes : Nat := 131072
def maxCookies : Nat := 64
def maxHeaderBytes : Nat := 4096
def maxRedirects : Nat := 5

def securityHeaders : List String :=
  ["strict-transport-security", "content-security-policy", "x-content-type-options",
    "referrer-policy", "permissions-policy", "cross-origin-opener-policy",
    "cross-origin-resource-policy", "cross-origin-embedder-policy", "x-frame-options", "server",
    "x-powered-by", "content-type"]

structure UrlLibrary (Url : Type) where
  parse : String → Option Url
  join : Url → String → Option Url
  text : Url → String
  scheme : Url → String
  hostStr : Url → Option String
  portOrKnownDefault : Url → Option Nat
  /-- Another path, without a query and without a fragment. -/
  withPath : Url → String → Url

/-- Header names are in lower case; `none` is a chunk of the body that could not be read. -/
structure HttpResponse where
  status : Nat
  version : String
  headers : List (String × List UInt8)
  chunks : List (Option (List UInt8))

/-- What an inspection meets: whether a client can be built, the answers to its GET requests in
their order, and the status of the answers to its HEAD requests. -/
structure HttpMeeting (Url : Type) where
  built : Bool
  get : Nat → Except String HttpResponse
  head : Url → Option Nat
  latencyMs : Option Nat

/-! ## Headers and cookies -/

/-- A header value as text: visible ASCII and tabs only. -/
def headerText (value : List UInt8) : Option String :=
  if value.all fun byte => decide (32 ≤ byte ∧ byte < 127) || byte == 9 then fromUtf8 value
  else none

def HttpResponse.header (response : HttpResponse) (name : String) : Option String :=
  (response.headers.find? fun header => header.1 == name).bind fun header => headerText header.2

def capText (value : String) (max : Nat) : String :=
  String.ofList ((value.toList.take max).filter fun c => !isControl c)

def sanitizeMessage (value : String) : String := capText value 512

def selectedHeaders (response : HttpResponse) : OrdMap String String :=
  .ofList (securityHeaders.filterMap fun name =>
    (response.header name).map fun value => (name, capText value maxHeaderBytes))

def CookieObservation.addAttribute (cookie : CookieObservation) (part : List Char) :
    CookieObservation :=
  let (name, value) := (splitOnce '=' part).getD (part, [])
  let value := String.ofList value
  match (String.ofList name).toLower with
  | "secure" => { cookie with secure := true }
  | "httponly" => { cookie with httpOnly := true }
  | "samesite" => { cookie with sameSite := some (capText value 64) }
  | "domain" => { cookie with domain := some (capText value 256) }
  | "path" => { cookie with path := some (capText value 256) }
  | _ => cookie

def parseCookie (value : String) : Option CookieObservation :=
  match (splitText ';' value).map fun part => trimSpaces part.toList with
  | [] => none
  | pair :: attributes =>
    match splitOnce '=' pair with
    | none => none
    | some (name, _) =>
      let name := trimSpaces name
      if name.isEmpty then none
      else some (attributes.foldl CookieObservation.addAttribute
        { name := capText (String.ofList name) 256
          secure := false
          httpOnly := false
          sameSite := none
          domain := none
          path := none })

def parseCookies (response : HttpResponse) : List CookieObservation :=
  (((response.headers.filter fun header => header.1 == "set-cookie").filterMap fun header =>
    headerText header.2).filterMap parseCookie).take maxCookies

/-! ## The body -/

/-- The bytes kept of a body, and whether it had more. -/
def readBody : List (Option (List UInt8)) → List UInt8 → List UInt8 × Bool
  | [], body => (body, false)
  | none :: _, body => (body, false)
  | some chunk :: chunks, body =>
    if chunk.length > maxBodyBytes - body.length then
      (body ++ chunk.take (maxBodyBytes - body.length), true)
    else readBody chunks (body ++ chunk)

/-- The position of the first occurrence of a text. -/
def findText (part : List Char) : List Char → Option Nat
  | [] => if part.isEmpty then some 0 else none
  | c :: cs => if part.isPrefixOf (c :: cs) then some 0 else (findText part cs).map (· + 1)

def asciiWords (cs : List Char) : List String :=
  ((cs.splitOnP isAsciiSpace).filter fun word => !word.isEmpty).map String.ofList

def extractTitle (platform : Platform) (body : List UInt8) : Option String := do
  let text := (platform.utf8Lossy body).toList
  let lowercase := lowerChars text
  let start ← findText "<title".toList lowercase
  let bracket ← findText ">".toList (lowercase.drop start)
  let contentStart := start + bracket + 1
  let length ← findText "</title>".toList (lowercase.drop contentStart)
  let title := " ".intercalate (asciiWords ((text.drop contentStart).take length))
  if title.isEmpty then none else some (capText title 512)

/-! ## Requests -/

section Requests

variable {Url : Type} (library : UrlLibrary Url)

def sameOrigin (initial next : Url) : Prop :=
  library.scheme initial = library.scheme next ∧ library.hostStr initial = library.hostStr next ∧
    library.portOrKnownDefault initial = library.portOrKnownDefault next

instance (initial next : Url) : Decidable (sameOrigin library initial next) :=
  inferInstanceAs (Decidable (_ ∧ _))

def isRedirection (status : Nat) : Bool := decide (300 ≤ status ∧ status < 400)

structure Fetch (Url : Type) where
  current : Url
  redirects : List RedirectObservation
  /-- The GET requests made so far. -/
  requested : List Url

/-- The loop of `inspect_inner`: the response it breaks with, or the error of a request. -/
def fetchPage (meeting : HttpMeeting Url) (initial : Url) (state : Fetch Url) :
    Except String HttpResponse × Fetch Url :=
  let asked := { state with requested := state.requested ++ [state.current] }
  match meeting.get state.requested.length with
  | .error message => (.error message, asked)
  | .ok response =>
    if !isRedirection response.status || decide (state.redirects.length ≥ maxRedirects) then
      (.ok response, asked)
    else
      match response.header "location" with
      | none => (.ok response, asked)
      | some location =>
        match library.join state.current location with
        | none => (.ok response, asked)
        | some next =>
          let recorded := { asked with
            redirects := state.redirects ++
              [⟨library.text state.current, response.status, library.text next⟩] }
          if ¬ sameOrigin library initial next then (.ok response, recorded)
          else fetchPage meeting initial { recorded with current := next }
termination_by maxRedirects - state.redirects.length
decreasing_by
  simp only [List.length_append, List.length_singleton]
  grind

def checkPath (meeting : HttpMeeting Url) (base : Url) (path : String) : Option Bool :=
  (meeting.head (library.withPath base path)).map fun status => status != 404

def urlHost (hostname : String) : String :=
  if hostname.toList.contains ':' && !hasStart "[" hostname then "[" ++ hostname ++ "]"
  else hostname

/-- The text of the first URL. -/
def endpointUrl (target : NormalizedTarget) (service : ServiceObservation) : String :=
  let scheme :=
    if service.service = .https ∨ service.address.port = 443 ∨ service.address.port = 8443 then
      "https"
    else "http"
  let hostname := target.hostname.getD (if service.address.ip.isIpv6 then "[::1]" else "127.0.0.1")
  let path := target.initialPath.getD "/"
  scheme ++ "://" ++ urlHost hostname ++ ":" ++ toString service.address.port ++ path

def errorObservation (address : SocketAddr) (url message : String) : HttpObservation where
  address := address
  url := url
  finalUrl := none
  status := none
  version := none
  latencyMs := none
  redirects := []
  headers := .empty
  cookies := []
  title := none
  bodyBytes := 0
  bodyTruncated := false
  robotsTxt := none
  securityTxt := none
  sitemapXml := none
  error := some (sanitizeMessage message)

/-- The observation of an endpoint, and the GET requests made for it. -/
def inspectInner (platform : Platform) (meeting : HttpMeeting Url) (target : NormalizedTarget)
    (service : ServiceObservation) : HttpObservation × List Url :=
  let urlText := endpointUrl target service
  match library.parse urlText with
  | none => (errorObservation service.address urlText "could not construct endpoint URL", [])
  | some initialUrl =>
    if !meeting.built then
      (errorObservation service.address urlText "could not initialize HTTP client", [])
    else
      match fetchPage library meeting initialUrl ⟨initialUrl, [], []⟩ with
      | (.error message, fetch) =>
        (errorObservation service.address (library.text initialUrl) (sanitizeMessage message),
          fetch.requested)
      | (.ok response, fetch) =>
        let (body, truncated) := readBody response.chunks []
        ({ address := service.address
           url := library.text initialUrl
           finalUrl := some (library.text fetch.current)
           status := some response.status
           version := some response.version
           latencyMs := meeting.latencyMs
           redirects := fetch.redirects
           headers := selectedHeaders response
           cookies := parseCookies response
           title := extractTitle platform body
           bodyBytes := body.length
           bodyTruncated := truncated
           robotsTxt := checkPath library meeting initialUrl "/robots.txt"
           securityTxt := checkPath library meeting initialUrl "/.well-known/security.txt"
           sitemapXml := checkPath library meeting initialUrl "/sitemap.xml"
           error := none }, fetch.requested)

end Requests

end Surface
