import DealFlow.Addon.Security

/-!
# Where webhooks may go

`is_safe_webhook_url` of `security/security_utils.py`: the scheme, the host name and every address
that the name resolves to are checked.  How a URL splits, how a name resolves at the moment and what
an address is for stand in `Network`, as `urllib.parse`, `socket` and `ipaddress` answer.
-/

namespace DealFlow.Addon

open Lib

/-- `urlparse`.  Reading the port of an URL may raise. -/
structure ParsedUrl where
  scheme : String
  hostname : Option String
  port : Except PythonException (Option ℕ)

/-- `ipaddress.ip_address`, with its text in the usual form. -/
structure IpAddress where
  text : String
  isLoopback : Bool := false
  isPrivate : Bool := false
  isLinkLocal : Bool := false
  isReserved : Bool := false
  isMulticast : Bool := false
  isUnspecified : Bool := false
  deriving DecidableEq, Repr

inductive ResolveError
  | gaierror (message : String)
  /-- A name that cannot be encoded. -/
  | unicodeError (message : String)
  deriving DecidableEq, Repr

structure Network where
  urlparse : String → Except PythonException ParsedUrl
  getaddrinfo : String → ℕ → Except ResolveError (List String)
  ipAddress : String → Option IpAddress

def blockedHostnames : List String :=
  ["localhost", "127.0.0.1", "::1", "0.0.0.0", "metadata.google.internal", "instance-data"]

/-- The ends of host names that are let through where they resolve to nothing. -/
def mockSuffixes : List String :=
  [".test", ".example", ".invalid", ".internal", ".mock"]

def stripText (text : String) : String :=
  String.ofList (strip text.toList)

section Url

variable (net : Network)

/-- Why an address is blocked. -/
def blockedIp (ipStr : String) (ip : IpAddress) : Option String :=
  if ip.isLoopback then
    some s!"SSRF blocked: Resolved IP '{ipStr}' is a loopback address."
  else if ip.isPrivate then
    some s!"SSRF blocked: Resolved IP '{ipStr}' is a private RFC-1918 address."
  else if ip.isLinkLocal then
    some s!"SSRF blocked: Resolved IP '{ipStr}' is a link-local / cloud metadata address."
  else if ip.isReserved then
    some s!"SSRF blocked: Resolved IP '{ipStr}' is an IETF reserved address."
  else if ip.isMulticast then
    some s!"SSRF blocked: Resolved IP '{ipStr}' is a multicast address."
  else if ip.isUnspecified then
    some s!"SSRF blocked: Resolved IP '{ipStr}' is an unspecified address."
  else none

def blockedAddress (ipStr : String) : Option String :=
  match net.ipAddress ipStr with
  | none => some s!"Invalid resolved IP address '{ipStr}'."
  | some ip => blockedIp ipStr ip

/-- The verdict with the first reason there is to block. -/
def verdictOf (reason : Option String) : Bool × String :=
  match reason with
  | some reason => (false, reason)
  | none => (true, "URL is safe.")

/-- The host resolved.  A name that does not resolve may be an address, or a name of the tests. -/
def checkHost (hostname : String) (port : ℕ) : Except PythonException (Bool × String) :=
  match net.getaddrinfo hostname port with
  | .ok addresses => .ok (verdictOf (addresses.findSome? (blockedAddress net)))
  | .error (.unicodeError message) => .error (.valueError message)
  | .error (.gaierror message) =>
      match net.ipAddress hostname with
      | some ip => .ok (verdictOf (blockedIp ip.text ip))
      | none =>
          if mockSuffixes.any (·.toList.isSuffixOf hostname.toList) then
            .ok (true, "Test mock domain allowed.")
          else .ok (false, s!"DNS resolution failed for hostname '{hostname}': {message}")

/-- The port to resolve for; `0` counts as none. -/
def portOf (parsed : ParsedUrl) (port : Option ℕ) : ℕ :=
  match port with
  | some (n + 1) => n + 1
  | _ => if parsed.scheme.toLower = "https" then 443 else 80

/-- The checks of an URL that parses. -/
def checkParsed (parsed : ParsedUrl) (allowPrivate : Bool) :
    Except PythonException (Bool × String) :=
  if parsed.scheme.toLower ∉ ["http", "https"] then
    .ok (false, s!"Disallowed scheme '{parsed.scheme}'. Only http and https are permitted.")
  else
    match parsed.hostname.filter (· ≠ "") with
    | none => .ok (false, "URL missing hostname.")
    | some hostname =>
        let hostnameClean := (stripText hostname).toLower
        if hostnameClean ∈ blockedHostnames then
          .ok (false, s!"Disallowed host '{hostname}' (loopback/metadata alias).")
        else if allowPrivate then .ok (true, "URL allowed by policy.")
        else
          match parsed.port with
          | .error e => .error e
          | .ok port => checkHost net hostnameClean (portOf parsed port)

def isSafeWebhookUrl (url : String) (allowPrivate : Bool) :
    Except PythonException (Bool × String) :=
  if url = "" then .ok (false, "URL cannot be empty.")
  else
    match net.urlparse (stripText url) with
    | .error e => .ok (false, s!"Malformed URL: {e.message}")
    | .ok parsed => checkParsed net parsed allowPrivate

/-! ## What passes -/

/-- An address of none of the kinds that are blocked. -/
def IpAddress.Public (ip : IpAddress) : Prop :=
  ip.isLoopback = false ∧ ip.isPrivate = false ∧ ip.isLinkLocal = false ∧
    ip.isReserved = false ∧ ip.isMulticast = false ∧ ip.isUnspecified = false

/-- All addresses that a host has at the moment are public, or it has none and is a name of the
tests. -/
def PublicHost (hostname : String) (port : ℕ) : Prop :=
  match net.getaddrinfo hostname port with
  | .ok addresses => ∀ a ∈ addresses, ∃ ip, net.ipAddress a = some ip ∧ ip.Public
  | .error (.unicodeError _) => False
  | .error (.gaierror _) =>
      (∃ ip, net.ipAddress hostname = some ip ∧ ip.Public) ∨
        (net.ipAddress hostname = none ∧ ∃ end' ∈ mockSuffixes, end'.toList <:+ hostname.toList)

/-- Of the web, with a host that is none of the blocked names and public. -/
def ParsedUrl.Public (parsed : ParsedUrl) : Prop :=
  parsed.scheme.toLower ∈ ["http", "https"] ∧
    ∃ hostname port, parsed.hostname.filter (· ≠ "") = some hostname ∧
      (stripText hostname).toLower ∉ blockedHostnames ∧ parsed.port = .ok port ∧
      PublicHost net (stripText hostname).toLower (portOf parsed port)

def PublicTarget (url : String) : Prop :=
  url ≠ "" ∧ ∃ parsed, net.urlparse (stripText url) = .ok parsed ∧ parsed.Public net

variable {net}

theorem verdictOf_safe {reason : Option String} : (verdictOf reason).1 = true ↔ reason = none := by
  cases reason with
  | none => exact iff_of_true rfl rfl
  | some reason => exact iff_of_false nofun nofun

theorem blockedIp_eq_none {ipStr : String} {ip : IpAddress} :
    blockedIp ipStr ip = none ↔ ip.Public := by
  simp [blockedIp, IpAddress.Public, ite_eq_iff]

theorem blockedAddress_eq_none {ipStr : String} :
    blockedAddress net ipStr = none ↔ ∃ ip, net.ipAddress ipStr = some ip ∧ ip.Public := by
  unfold blockedAddress
  cases found : net.ipAddress ipStr with
  | none => simp
  | some ip => simp [blockedIp_eq_none]

theorem checkHost_safe {hostname : String} {port : ℕ} {verdict : Bool × String}
    (checked : checkHost net hostname port = .ok verdict) :
    verdict.1 = true ↔ PublicHost net hostname port := by
  unfold checkHost at checked
  unfold PublicHost
  cases resolved : net.getaddrinfo hostname port with
  | ok addresses =>
      rw [resolved] at checked
      obtain rfl := Except.ok.inj checked
      rw [verdictOf_safe, List.findSome?_eq_none_iff]
      exact forall₂_congr fun a _ => blockedAddress_eq_none
  | error e =>
      rw [resolved] at checked
      cases e with
      | unicodeError message => cases checked
      | gaierror message =>
          dsimp only at checked ⊢
          cases address : net.ipAddress hostname with
          | some ip =>
              rw [address] at checked
              obtain rfl := Except.ok.inj checked
              rw [verdictOf_safe, blockedIp_eq_none]
              simp
          | none =>
              rw [address] at checked
              dsimp only at checked
              split at checked
              · next mock =>
                  obtain rfl := Except.ok.inj checked
                  simpa using mock
              · next other =>
                  obtain rfl := Except.ok.inj checked
                  simpa using other

theorem checkParsed_safe {parsed : ParsedUrl} {verdict : Bool × String}
    (checked : checkParsed net parsed false = .ok verdict) :
    verdict.1 = true ↔ parsed.Public net := by
  unfold checkParsed at checked
  unfold ParsedUrl.Public
  split at checked
  · next other =>
      obtain rfl := Except.ok.inj checked
      exact iff_of_false nofun fun passes => other passes.1
  · next web =>
      rw [not_not] at web
      cases named : parsed.hostname.filter (· ≠ "") with
      | none =>
          rw [named] at checked
          obtain rfl := Except.ok.inj checked
          refine iff_of_false nofun ?_
          rintro ⟨-, hostname, port, missing, -⟩
          cases missing
      | some hostname =>
          rw [named] at checked
          dsimp only at checked
          split at checked
          · next blocked =>
              obtain rfl := Except.ok.inj checked
              refine iff_of_false nofun ?_
              rintro ⟨-, other, port, same, allowed, -⟩
              obtain rfl := Option.some.inj same
              exact allowed blocked
          · next allowed =>
              cases ports : parsed.port with
              | error e =>
                  rw [ports] at checked
                  cases checked
              | ok port =>
                  rw [ports] at checked
                  rw [checkHost_safe checked]
                  constructor
                  · intro passes
                    exact ⟨web, hostname, port, rfl, allowed, rfl, passes⟩
                  · rintro ⟨-, other, port', same, -, samePort, passes⟩
                    obtain rfl := Option.some.inj same
                    obtain rfl := Except.ok.inj samePort
                    exact passes

/-- The check passes the public targets, and no others. -/
theorem isSafeWebhookUrl_safe {url : String} {verdict : Bool × String}
    (checked : isSafeWebhookUrl net url false = .ok verdict) :
    verdict.1 = true ↔ PublicTarget net url := by
  unfold isSafeWebhookUrl at checked
  unfold PublicTarget
  split at checked
  · next empty =>
      obtain rfl := Except.ok.inj checked
      exact iff_of_false nofun fun passes => passes.1 empty
  · next given =>
      cases split : net.urlparse (stripText url) with
      | error e =>
          rw [split] at checked
          obtain rfl := Except.ok.inj checked
          simp
      | ok parsed =>
          rw [split] at checked
          rw [checkParsed_safe checked]
          constructor
          · intro passes
            exact ⟨given, parsed, rfl, passes⟩
          · rintro ⟨-, other, same, passes⟩
            obtain rfl := Except.ok.inj same
            exact passes

end Url

end DealFlow.Addon
