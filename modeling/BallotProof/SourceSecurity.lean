import BallotProof.Strings
import BallotProof.Transport

/-! The checks that a source request passes before it reaches the network: those of the scheduler
and the executor in `validate_source_request`, and those of `PinnedHTTPSStreamingTransport.send`,
which then connects to a resolved address. -/
namespace BallotProof
open Python

/-- What is read of `urlsplit(url)`; `port` is none where reading it raises ValueError. -/
structure SplitUrl where
  scheme : String
  username : Option String
  password : Option String
  hostname : Option String
  port : Option (Option Nat)
  path : String
  query : String
  fragment : String
  deriving DecidableEq

structure IpAddress where
  isGlobal : Bool
  deriving DecidableEq

/-- The functions of the standard library that the checks use; any will do. `idna` encodes and decodes,
and is none where that raises UnicodeError; `ipAddress` is none where the text is no address. -/
structure UrlLibrary where
  urlsplit : String → Result SplitUrl
  upper : String → String
  lower : String → String
  idna : String → Option String
  ipAddress : String → Option IpAddress

/-- `HttpUrl` accepts no URL without a host. -/
def UrlLibrary.HasHost (lib : UrlLibrary) (url : String) : Prop :=
  ∀ split, lib.urlsplit url = .ok split → split.hostname ≠ none

inductive SourceError where
  /-- `SourceRequestPolicyError` -/
  | policy (reason : RequestPolicyViolation) (message : String)
  /-- The same, for the reason UNSAFE_RESOLVED_ADDRESS. -/
  | resolvedAddress (message : String)
  /-- `SourceNetworkError` -/
  | network (message : String)
  | other (error : Error)
  deriving DecidableEq

/-- `text.rstrip(".")` -/
def rstripDots (text : String) : String :=
  String.ofList (text.toList.reverse.dropWhile (· = '.')).reverse

/-- `list(dict.fromkeys(values))` -/
def firstOccurrences (values : List String) : List String :=
  values.foldl (fun seen value => if value ∈ seen then seen else seen ++ [value]) []

section
variable (lib : UrlLibrary)

def normalizeSourceHost (host : String) : String :=
  let value := rstripDots (lib.lower (String.ofList (strip host.toList)))
  if value = "" then value else (lib.idna value).getD value

def validateSourceRequest (policy : SourcePolicy) (requestUrl requestMethod : String) :
    Except SourceError Unit :=
  if lib.upper requestMethod ≠ "GET" then
    .error (.policy .methodNotAllowed "source acquisition currently permits GET requests only")
  else match lib.urlsplit requestUrl with
  | .error e => .error (.other e)
  | .ok parsed =>
    if lib.lower parsed.scheme ≠ "https" then
      .error (.policy .insecureScheme "source acquisition requires HTTPS")
    else if parsed.username ≠ none ∨ parsed.password ≠ none then
      .error (.policy .userinfoNotAllowed "source request URLs cannot contain userinfo or credentials")
    else if parsed.fragment ≠ "" then
      .error (.policy .fragmentNotAllowed "source request URLs cannot contain fragments")
    else match parsed.port with
    | none => .error (.policy .nonstandardPort "source request URL contains an invalid port")
    | some port =>
      if port ≠ none ∧ port ≠ some 443 then
        .error (.policy .nonstandardPort "source acquisition permits the standard HTTPS port only")
      else match parsed.hostname with
      | none => .error (.policy .hostNotAllowed "source request URL does not contain a hostname")
      | some hostname =>
        let host := normalizeSourceHost lib hostname
        if host ∉ policy.allowedHosts.map (normalizeSourceHost lib) then
          .error (.policy .hostNotAllowed ("source request host is not approved by policy: " ++ host))
        else match lib.ipAddress host with
        | none => .ok ()
        | some address =>
          if address.isGlobal then .ok ()
          else .error (.policy .unsafeIpLiteral "source request IP literal must be globally routable")

/-- The verdict of `validate_source_request` that the scheduler and the executor read. -/
def requestViolation (policy : SourcePolicy) (requestUrl requestMethod : String) :
    Option RequestPolicyViolation :=
  match validateSourceRequest lib policy requestUrl requestMethod with
  | .error (.policy reason _) => some reason
  | _ => none

/-- A turn of the loop of `validate_resolved_addresses`. -/
def validateResolvedAddress (value : String) : Except SourceError Unit :=
  match lib.ipAddress value with
  | none => .error (.resolvedAddress ("source hostname resolved to an invalid IP address: " ++ value))
  | some address =>
    if address.isGlobal then .ok ()
    else .error (.resolvedAddress ("source hostname resolved to a non-global address: " ++ value))

def validateResolvedAddresses (host : String) (addresses : List String) : Except SourceError Unit :=
  if addresses = [] then
    .error (.resolvedAddress ("source hostname resolved to no addresses: " ++ host))
  else addresses.forM (validateResolvedAddress lib)

/-- `PinnedHTTPSStreamingTransport.send` up to the name resolution -/
def checkedHost (request : TransportRequest) : Except SourceError (SplitUrl × String) :=
  match lib.urlsplit request.requestUrl with
  | .error e => .error (.other e)
  | .ok parsed =>
    let host := normalizeSourceHost lib (parsed.hostname.getD "")
    if lib.lower parsed.scheme ≠ "https" ∨ host ∉ request.allowedHosts.map (normalizeSourceHost lib) then
      .error (.network "request URL is outside the approved HTTPS host policy")
    else if parsed.username ≠ none ∨ parsed.password ≠ none ∨ parsed.fragment ≠ "" then
      .error (.network "request URL contains forbidden credentials or fragment")
    else match parsed.port with
    | none => .error (.other ⟨.valueError, "port"⟩)
    | some port =>
      if port ≠ none ∧ port ≠ some 443 then
        .error (.network "request URL must use the standard HTTPS port")
      else if lib.upper request.requestMethod ≠ "GET" ∨ request.followRedirects ≠ false then
        .error (.network "network transport permits GET with redirects disabled only")
      else .ok (parsed, host)

/-- What a response says before its body is read. -/
structure ResponseHead where
  status : Nat
  contentLength : Option String
  mediaType : Option String
  etag : Option String
  lastModified : Option String
  deriving DecidableEq

/-- What a transport is built with: the resolver, and the exchange over the connection that is opened
to an address, for a host, a target and headers, where the last of two with one name counts. -/
structure PinnedTransport where
  transportId : String
  transportVersion : String
  headers : List (String × String)
  resolver : String → Nat → Result (List String)
  exchange : String → String → Binary64 → String → List (String × String) → Result ResponseHead

/-- `send`: the addresses that a connection is opened to, and how the call ends. -/
def PinnedTransport.send (transport : PinnedTransport) (request : TransportRequest) :
    List String × Except SourceError ResponseHead :=
  match checkedHost lib request with
  | .error e => ([], .error e)
  | .ok (parsed, host) =>
    match transport.resolver host 443 with
    | .error e => ([], .error (.other e))
    | .ok answer =>
      let addresses := firstOccurrences answer
      match validateResolvedAddresses lib host addresses with
      | .error e => ([], .error e)
      | .ok () =>
        match addresses with
        | [] => ([], .error (.other ⟨.indexError, "list index out of range"⟩))
        | address :: _ =>
          let path := if parsed.path = "" then "/" else parsed.path
          let target := if parsed.query = "" then path else path ++ "?" ++ parsed.query
          let headers := ("Accept-Encoding", "identity") :: ("User-Agent", "BallotProof/" ++
            transport.transportId ++ "/" ++ transport.transportVersion) :: transport.headers
          match transport.exchange host address request.timeoutSeconds target headers with
          | .error e => ([address], .error (.other e))
          | .ok response =>
            if 300 ≤ response.status ∧ response.status ≤ 399 then
              ([address], .error (.network "redirect responses are not accepted by this transport"))
            else
              let declared := response.contentLength.bind fun text => intOfText text.toList
              if declared.any fun size => (request.maxResponseBytes : Int) < size then
                ([address], .error (.network
                  "declared response size exceeds the approved policy byte limit"))
              else ([address], .ok response)

/-- What both layers ask of a request, for a list of allowed hosts. -/
structure WithinPolicy (allowedHosts : List String) (requestUrl requestMethod : String) (parsed : SplitUrl) :
    Prop where
  method : lib.upper requestMethod = "GET"
  read : lib.urlsplit requestUrl = .ok parsed
  scheme : lib.lower parsed.scheme = "https"
  username : parsed.username = none
  password : parsed.password = none
  fragment : parsed.fragment = ""
  port : parsed.port = some none ∨ parsed.port = some (some 443)
  host : normalizeSourceHost lib (parsed.hostname.getD "") ∈ allowedHosts.map (normalizeSourceHost lib)

/-- The verdict on a URL that is within the policy. -/
theorem validateSourceRequest_within (within : WithinPolicy lib policy.allowedHosts requestUrl requestMethod parsed)
    (named : parsed.hostname = some hostname) :
    validateSourceRequest lib policy requestUrl requestMethod =
      match lib.ipAddress (normalizeSourceHost lib hostname) with
      | none => .ok ()
      | some address =>
        if address.isGlobal then .ok ()
        else .error (.policy .unsafeIpLiteral "source request IP literal must be globally routable") := by
  obtain ⟨method, read, scheme, username, password, fragment, port, host⟩ := within
  rw [named, Option.getD_some] at host
  rcases port with port | port
  all_goals simp [validateSourceRequest, method, read, scheme, username, password, fragment, port, named, host]

end

section
variable {lib : UrlLibrary} {policy : SourcePolicy} {requestUrl requestMethod : String}

/-- An accepted request is within the policy, and its URL has a host. -/
theorem validateSourceRequest_ok (h : validateSourceRequest lib policy requestUrl requestMethod = .ok ()) :
    ∃ parsed, WithinPolicy lib policy.allowedHosts requestUrl requestMethod parsed ∧ parsed.hostname ≠ none := by
  simp only [validateSourceRequest, ne_eq] at h
  split at h
  · cases h
  rename_i method
  split at h
  · cases h
  rename_i parsed read
  split at h
  · cases h
  rename_i scheme
  split at h
  · cases h
  rename_i userinfo
  split at h
  · cases h
  rename_i fragment
  split at h
  · cases h
  rename_i port readPort
  split at h
  · cases h
  rename_i standard
  split at h
  · cases h
  rename_i hostname named
  split at h
  · cases h
  rename_i allowed
  rw [not_or, not_not, not_not] at userinfo
  refine ⟨parsed, ⟨not_not.mp method, read, not_not.mp scheme, userinfo.1, userinfo.2, not_not.mp fragment,
    ?_, ?_⟩, ?_⟩
  · rw [not_and_or, not_not, not_not] at standard
    rw [readPort]
    exact standard.imp (congrArg some) (congrArg some)
  · rw [named]
    exact not_not.mp allowed
  · rw [named]
    exact Option.some_ne_none hostname

theorem checkedHost_ok {request : TransportRequest} : checkedHost lib request = .ok (parsed, host) ↔
    WithinPolicy lib request.allowedHosts request.requestUrl request.requestMethod parsed ∧
      request.followRedirects = false ∧ host = normalizeSourceHost lib (parsed.hostname.getD "") := by
  constructor
  · intro h
    simp only [checkedHost, ne_eq] at h
    split at h
    · cases h
    rename_i split read
    split at h
    · cases h
    rename_i allowed
    split at h
    · cases h
    rename_i plain
    split at h
    · cases h
    rename_i port readPort
    split at h
    · cases h
    rename_i standard
    split at h
    · cases h
    rename_i method
    cases h
    rw [not_or, not_not, not_not] at allowed method
    rw [not_or, not_or, not_not, not_not, not_not] at plain
    rw [not_and_or, not_not, not_not] at standard
    refine ⟨⟨method.1, read, allowed.1, plain.1, plain.2.1, plain.2.2, ?_, allowed.2⟩, method.2, rfl⟩
    rw [readPort]
    exact standard.imp (congrArg some) (congrArg some)
  · rintro ⟨⟨method, read, scheme, username, password, fragment, port, allowed⟩, direct, rfl⟩
    rcases port with port | port
    all_goals simp [checkedHost, method, read, scheme, username, password, fragment, port, allowed, direct]

theorem mem_firstOccurrences : value ∈ firstOccurrences values ↔ value ∈ values := by
  have walk (seen) : value ∈ values.foldl
      (fun seen value => if value ∈ seen then seen else seen ++ [value]) seen ↔ value ∈ seen ∨ value ∈ values := by
    induction values generalizing seen with
    | nil => simp
    | cons first values ih =>
      rw [List.foldl_cons, ih, List.mem_cons]
      split
      · rename_i known
        constructor
        · exact Or.imp_right .inr
        · rintro (old | rfl | rest)
          · exact .inl old
          · exact .inl known
          · exact .inr rest
      · rw [List.mem_append, List.mem_singleton, or_assoc]
  simpa only [firstOccurrences, List.not_mem_nil, false_or] using walk []

/-- The text is an IP address that is globally routable. -/
def GlobalAddress (lib : UrlLibrary) (value : String) : Prop :=
  ∃ address, lib.ipAddress value = some address ∧ address.isGlobal

theorem validateResolvedAddress_ok (h : validateResolvedAddress lib value = .ok ()) : GlobalAddress lib value := by
  unfold validateResolvedAddress at h
  split at h
  · cases h
  · rename_i address read
    split at h
    · rename_i reachable
      exact ⟨address, read, reachable⟩
    · cases h

theorem validateResolvedAddresses_ok (h : validateResolvedAddresses lib host addresses = .ok ()) :
    ∀ value ∈ addresses, GlobalAddress lib value := by
  unfold validateResolvedAddresses at h
  split at h
  · cases h
  · intro value member
    clear * - h member
    induction addresses with
    | nil => cases member
    | cons first addresses ih =>
      change (validateResolvedAddress lib first >>= fun _ => addresses.forM (validateResolvedAddress lib)) = _ at h
      cases checked : validateResolvedAddress lib first with
      | error e =>
        rw [checked] at h
        cases h
      | ok done =>
        rw [checked] at h
        rcases List.mem_cons.mp member with rfl | member
        · exact validateResolvedAddress_ok checked
        · exact ih h member

/-- A connection is opened after every address of the resolver's answer passed, and to one of them. -/
theorem PinnedTransport.send_opened {transport : PinnedTransport} {request : TransportRequest}
    (opened : address ∈ (transport.send lib request).1) :
    ∃ parsed host answer, checkedHost lib request = .ok (parsed, host) ∧
      transport.resolver host 443 = .ok answer ∧ address ∈ answer ∧ ∀ value ∈ answer, GlobalAddress lib value := by
  unfold PinnedTransport.send at opened
  split at opened
  · cases opened
  rename_i parsed host checked
  split at opened
  · cases opened
  rename_i answer resolved
  dsimp only at opened
  split at opened
  · cases opened
  rename_i valid
  have reachable := validateResolvedAddresses_ok valid
  refine ⟨parsed, host, answer, checked, resolved, ?_,
    fun value member => reachable value (mem_firstOccurrences.mpr member)⟩
  split at opened
  · cases opened
  rename_i first rest order
  have only : address = first := by
    split at opened
    · exact List.mem_singleton.mp opened
    · split at opened
      · exact List.mem_singleton.mp opened
      · split at opened <;> exact List.mem_singleton.mp opened
  rw [only, ← mem_firstOccurrences, order]
  exact List.mem_cons_self

theorem checkedHost_of_valid {current : SourcePolicySnapshot} {reservation : SourceRequestReservation}
    (accepted : validateSourceRequest lib current.policy reservation.requestUrl reservation.requestMethod = .ok ())
    (maxBytes : Option Nat) :
    ∃ checked, checkedHost lib (transportRequest current reservation maxBytes) = .ok checked := by
  obtain ⟨parsed, within, -⟩ := validateSourceRequest_ok accepted
  exact ⟨(parsed, _), checkedHost_ok.mpr ⟨within, rfl, rfl⟩⟩

/-- What passes the transport's checks is refused by the policy check for its IP literal only. -/
theorem validateSourceRequest_of_checked {current : SourcePolicySnapshot} {reservation : SourceRequestReservation}
    (hosted : lib.HasHost reservation.requestUrl)
    (passed : checkedHost lib (transportRequest current reservation maxBytes) = .ok (parsed, host)) :
    validateSourceRequest lib current.policy reservation.requestUrl reservation.requestMethod = .ok () ∨
      ∃ message, validateSourceRequest lib current.policy reservation.requestUrl reservation.requestMethod =
        .error (.policy .unsafeIpLiteral message) := by
  obtain ⟨within, -, -⟩ := checkedHost_ok.mp passed
  obtain ⟨hostname, named⟩ := Option.ne_none_iff_exists'.mp (hosted parsed within.read)
  have within : WithinPolicy lib current.policy.allowedHosts reservation.requestUrl reservation.requestMethod
    parsed := within
  rw [validateSourceRequest_within lib within named]
  split
  · exact .inl rfl
  · split
    · exact .inl rfl
    · exact .inr ⟨_, rfl⟩

/-- The policy check and the transport accept the same requests but for IP literals, and a connection
is opened only to an address of an answer that is globally routable throughout. -/
theorem requestLayers_agree (lib : UrlLibrary) (current : SourcePolicySnapshot)
    (reservation : SourceRequestReservation) (maxBytes : Option Nat) (hosted : lib.HasHost reservation.requestUrl) :
    (validateSourceRequest lib current.policy reservation.requestUrl reservation.requestMethod = .ok () →
      ∃ checked, checkedHost lib (transportRequest current reservation maxBytes) = .ok checked) ∧
    ((∃ checked, checkedHost lib (transportRequest current reservation maxBytes) = .ok checked) →
      validateSourceRequest lib current.policy reservation.requestUrl reservation.requestMethod = .ok () ∨
        ∃ message, validateSourceRequest lib current.policy reservation.requestUrl reservation.requestMethod =
          .error (.policy .unsafeIpLiteral message)) ∧
    ∀ (transport : PinnedTransport) (request : TransportRequest) (address : String),
      address ∈ (transport.send lib request).1 →
        ∃ parsed host answer, checkedHost lib request = .ok (parsed, host) ∧
          transport.resolver host 443 = .ok answer ∧ address ∈ answer ∧ ∀ value ∈ answer, GlobalAddress lib value := by
  refine ⟨fun accepted => checkedHost_of_valid accepted maxBytes, ?_, fun transport request address opened =>
    PinnedTransport.send_opened opened⟩
  rintro ⟨⟨parsed, host⟩, passed⟩
  exact validateSourceRequest_of_checked hosted passed

end

/-- The library at the URL of the results page. -/
def resultsPage : UrlLibrary where
  urlsplit _ := .ok ⟨"https", none, none, some "results.example", some none, "/r", "", ""⟩
  upper := String.toUpper
  lower := String.toLower
  idna := some
  ipAddress _ := none

theorem resultsPage_agrees :
    (∃ checked, checkedHost resultsPage (transportRequest sampleSnapshot sampleReservation none) = .ok checked) ∧
    ¬∃ checked, checkedHost resultsPage (transportRequest sampleSnapshot { sampleReservation with
      requestMethod := "POST" } none) = .ok checked := by
  constructor
  · refine (requestLayers_agree resultsPage sampleSnapshot sampleReservation none ?_).1 ?_
    · intro split read
      cases read
      exact Option.some_ne_none _
    · decide +kernel
  · rintro ⟨⟨parsed, host⟩, passed⟩
    have posted := (checkedHost_ok.mp passed).1.method
    revert posted
    decide +kernel

end BallotProof
