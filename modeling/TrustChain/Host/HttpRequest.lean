import TrustChain.Host.Main
import TrustChain.Library.Scan

namespace TrustChain
namespace Host

open Library Tee

/-!
# From the received bytes to a handler

`handle_client` receives a request, and `handle_http_request` reads a method and
a path off its start and calls a handler by them.  The two conversions know
nothing of the arrays that they fill, and nobody asks how many of them were
made: an array is overrun by a long word, and it keeps what it held before when
there is no word for it.  The repository number is read by `atoi`.
-/

/-- `BUFFER_SIZE`. -/
def httpBufferSize : Nat := 4096

/-- What one `recv` has brought. -/
structure Received where
  bytes : List UInt8
  nonempty : 0 < bytes.length
  fits : bytes.length ≤ httpBufferSize - 1

/-- `buffer` of `handle_client` as a string. -/
def Received.request (received : Received) : CString := .ofMemory (received.bytes ++ [0])

/-- The arrays `method` and `path` of `handle_http_request`, which start
uninitialised: what reading them finds. -/
structure RequestLocals where
  method : CString
  path : CString

def sizeofMethod : Nat := 16
def sizeofPath : Nat := 256

/-- What becomes of a request: bytes that are written as they are, a handler, an
answer, or nothing that the language gives a meaning to. -/
inductive HttpOutcome
  | written (response : CString)
  | dispatched (request : Request)
  | replied (reply : Reply)
  | undefined

/-- `strstr`, with an empty `haystack` at the end. -/
def strstr (needle : List UInt8) : List UInt8 → Option (List UInt8)
  | [] => if needle.isEmpty then some [] else none
  | c :: rest => if needle.isPrefixOf (c :: rest) then some (c :: rest) else strstr needle rest

/-- `body`. -/
def bodyOf (request : CString) : CString :=
  match strstr [13, 10, 13, 10] request.bytes with
  | some bodyStart => .ofMemory (bodyStart.drop 4)
  | none => .empty

def methodOptions : CString := .literal "OPTIONS"
def methodPost : CString := .literal "POST"
def methodGet : CString := .literal "GET"

def pathInitRepo : CString := .literal "/init-repo"
def pathCommit : CString := .literal "/commit"
def pathAccessControl : CString := .literal "/access-control"
def pathLatestHash : CString := .literal "/latest-hash/"

def preflightResponse : CString :=
  .literal "HTTP/1.1 200 OK\r\n" ++ .literal "Access-Control-Allow-Origin: *\r\n" ++
    .literal "Access-Control-Allow-Methods: GET, POST, OPTIONS\r\n" ++
    .literal "Access-Control-Allow-Headers: Content-Type\r\n" ++ .literal "\r\n"

def endpointNotFound : Reply := ⟨404, .literal "\x7b\"error\":\"Endpoint not found\"\x7d"⟩
def methodNotAllowed : Reply := ⟨405, .literal "\x7b\"error\":\"Method not allowed\"\x7d"⟩

section Parsing

variable (overflow : IntOverflow)

/-- `handle_http_request` behind `sscanf`. -/
def dispatch (method path body : CString) : HttpOutcome :=
  if method = methodOptions then .written preflightResponse
  else if method = methodPost then
    if path = pathInitRepo then .dispatched (.initRepo body)
    else if path = pathCommit then .dispatched (.commit body)
    else if path = pathAccessControl then .dispatched (.accessControl body)
    else .replied endpointNotFound
  else if method = methodGet then
    if path.take 13 = pathLatestHash then
      match atoi overflow (path.bytes.drop 13) with
      | none => .undefined
      | some repoId => .dispatched (.latestHash repoId.toUInt32)
    else .replied endpointNotFound
  else .replied methodNotAllowed

/-- A word is longer than its array has room for. -/
def overruns (size : Nat) (word : Option (List UInt8)) : Bool :=
  word.any fun bytes => decide (size ≤ bytes.length)

/-- An array after `sscanf`. -/
def held (stale : CString) (word : Option (List UInt8)) : CString :=
  (word.map CString.ofMemory).getD stale

/-- `handle_http_request`. -/
def handleHttpRequest (stale : RequestLocals) (request : CString) : HttpOutcome :=
  let assigned := scanTwo isSpace request.bytes
  if overruns sizeofMethod assigned.1 ∨ overruns sizeofPath assigned.2 then .undefined
  else
    dispatch overflow (held stale.method assigned.1) (held stale.path assigned.2) (bodyOf request)

/-- `handle_client`, once `recv` has brought something; otherwise the connection
is closed without an answer. -/
def handleClient (stale : RequestLocals) (received : Received) : HttpOutcome :=
  handleHttpRequest overflow stale received.request

end Parsing

/-! ## What exact parsing means -/

/-- An answer with a status of 400 or more. -/
def HttpOutcome.IsError : HttpOutcome → Prop
  | .replied reply => 400 ≤ reply.status
  | _ => False

/-- The words of a text are its parts between white space, and these are the first two. -/
def FirstWords (text : List UInt8) (method path : List UInt8) : Prop :=
  (words isSpace text).take 2 = [method, path]

/-- The text in front of a `?`, or all of it. -/
def upToQuery (text : List UInt8) : List UInt8 := text.takeWhile (· ≠ 63)

/-- The request is refused or handled by its first two words, and a query for the
latest hash is refused or names the repository that is queried. -/
structure ParsedExactly (form : NumeralForm) (overflow : IntOverflow) (received : Received)
    (outcome : HttpOutcome) : Prop where
  byWords : outcome.IsError ∨ ∃ method path : CString,
    FirstWords received.bytes method.bytes path.bytes ∧
      method.length ≤ 15 ∧ path.length ≤ 255 ∧
      outcome = dispatch overflow method path (bodyOf received.request)
  byNumeral : ∀ number, FirstWords received.bytes methodGet.bytes (pathLatestHash.bytes ++ number) →
    outcome.IsError ∨ ∃ repoId : UInt32, outcome = .dispatched (.latestHash repoId) ∧
      form.Writes (upToQuery number) repoId.toNat

/-! ## Dispatching -/

/-- The service does something for this method and this path. -/
def Endpoint (method path : CString) : Prop :=
  method = methodOptions ∨
    (method = methodPost ∧
      (path = pathInitRepo ∨ path = pathCommit ∨ path = pathAccessControl)) ∨
    (method = methodGet ∧ path.take 13 = pathLatestHash)

section Dispatching

variable (overflow : IntOverflow) (path body : CString)

theorem dispatch_isError_iff (method : CString) :
    (dispatch overflow method path body).IsError ↔ ¬ Endpoint method path := by
  unfold dispatch Endpoint
  by_cases options : method = methodOptions
  · rw [if_pos options]
    exact iff_of_false id fun none => none (Or.inl options)
  rw [if_neg options]
  by_cases post : method = methodPost
  · have notGet : method ≠ methodGet := by
      rw [post]
      decide
    rw [if_pos post]
    by_cases initRepo : path = pathInitRepo
    · rw [if_pos initRepo]
      exact iff_of_false id fun none => none (Or.inr (Or.inl ⟨post, Or.inl initRepo⟩))
    rw [if_neg initRepo]
    by_cases commit : path = pathCommit
    · rw [if_pos commit]
      exact iff_of_false id fun none => none (Or.inr (Or.inl ⟨post, Or.inr (Or.inl commit)⟩))
    rw [if_neg commit]
    by_cases accessControl : path = pathAccessControl
    · rw [if_pos accessControl]
      exact iff_of_false id
        fun none => none (Or.inr (Or.inl ⟨post, Or.inr (Or.inr accessControl)⟩))
    rw [if_neg accessControl]
    apply iff_of_true
    · exact (by decide : 400 ≤ endpointNotFound.status)
    · simp [options, notGet, initRepo, commit, accessControl]
  rw [if_neg post]
  by_cases get : method = methodGet
  · rw [if_pos get]
    by_cases latestHash : path.take 13 = pathLatestHash
    · rw [if_pos latestHash]
      refine iff_of_false ?_ fun none => none (Or.inr (Or.inr ⟨get, latestHash⟩))
      cases atoi overflow (path.bytes.drop 13) <;> exact id
    rw [if_neg latestHash]
    apply iff_of_true
    · exact (by decide : 400 ≤ endpointNotFound.status)
    · simp [options, post, latestHash]
  rw [if_neg get]
  apply iff_of_true
  · exact (by decide : 400 ≤ methodNotAllowed.status)
  · simp [options, post, get]

variable {path}

theorem length_pathLatestHash : pathLatestHash.bytes.length = 13 := by decide

/-- A path under `/latest-hash/` and what stands behind it. -/
theorem take_eq_pathLatestHash_iff :
    path.take 13 = pathLatestHash ↔ ∃ number, path.bytes = pathLatestHash.bytes ++ number := by
  constructor
  · intro same
    refine ⟨path.bytes.drop 13, ?_⟩
    rw [← same]
    exact (List.take_append_drop 13 path.bytes).symm
  · rintro ⟨number, under⟩
    apply CString.ext
    rw [CString.bytes_take, under, ← length_pathLatestHash, List.take_left]

theorem dispatch_latestHash {number : List UInt8}
    (under : path.bytes = pathLatestHash.bytes ++ number) :
    dispatch overflow methodGet path body =
      match atoi overflow number with
      | none => .undefined
      | some repoId => .dispatched (.latestHash repoId.toUInt32) := by
  have behind : path.bytes.drop 13 = number := by
    rw [under, ← length_pathLatestHash, List.drop_left]
  unfold dispatch
  rw [if_neg (by decide), if_neg (by decide), if_pos rfl,
    if_pos (take_eq_pathLatestHash_iff.mpr ⟨number, under⟩), behind]

/-- A `?` ends the digits. -/
theorem takeWhile_isDigit_behind (number : List UInt8) :
    (number.dropWhile (· ≠ 63)).takeWhile JsonText.isDigit = [] := by
  cases behind : number.dropWhile (· ≠ 63) with
  | nil => rfl
  | cons c rest =>
      have stopped := head?_dropWhile_not (by rw [behind]; rfl : _ = some c)
      have isQuery : c = 63 := by simpa using stopped
      rw [isQuery]
      rfl

/-- The repository that is queried is the one that is named, exactly if the
number is recovered. -/
theorem dispatch_names_iff {form : NumeralForm} {number : List UInt8}
    (under : path.bytes = pathLatestHash.bytes ++ number) :
    (∃ repoId : UInt32, dispatch overflow methodGet path body = .dispatched (.latestHash repoId) ∧
        form.Writes (upToQuery number) repoId.toNat) ↔
      ∃ repoId : UInt32, form.Writes (upToQuery number) repoId.toNat ∧
        Recovered overflow repoId := by
  have parts : number = upToQuery number ++ number.dropWhile (· ≠ 63) :=
    (List.takeWhile_append_dropWhile).symm
  have recovered : ∀ {repoId : UInt32}, form.Writes (upToQuery number) repoId.toNat →
      ((∃ converted, atoi overflow number = some converted ∧ converted.toUInt32 = repoId) ↔
        Recovered overflow repoId) := by
    intro repoId writes
    have ends := takeWhile_isDigit_behind number
    have read := atoi_numeral_iff overflow writes ends
    rwa [← parts] at read
  rw [dispatch_latestHash overflow body under]
  constructor
  · rintro ⟨repoId, queried, writes⟩
    refine ⟨repoId, writes, (recovered writes).mp ?_⟩
    cases read : atoi overflow number with
    | none =>
        rw [read] at queried
        cases queried
    | some converted =>
        rw [read] at queried
        cases queried
        exact ⟨converted, rfl, rfl⟩
  · rintro ⟨repoId, writes, back⟩
    rcases (recovered writes).mpr back with ⟨converted, read, rfl⟩
    rw [read]
    exact ⟨_, rfl, writes⟩

end Dispatching

/-! ## The first two words -/

section FirstTwo

variable (overflow : IntOverflow) (stale : RequestLocals) (received : Received)

theorem request_bytes : received.request.bytes = received.bytes.takeWhile (· ≠ 0) := by
  change (received.bytes ++ [0]).takeWhile (· ≠ 0) = received.bytes.takeWhile (· ≠ 0)
  rw [List.takeWhile_append]
  split_ifs with whole
  · have same := (List.takeWhile_prefix (· ≠ (0 : UInt8)) (l := received.bytes)).eq_of_length whole
    rw [same]
    exact List.append_nil _
  · rfl

variable {received}

/-- Words without a NUL are still there when the text ends at the first NUL. -/
theorem firstWords_request {method path : CString}
    (first : FirstWords received.bytes method.bytes path.bytes) :
    FirstWords received.request.bytes method.bytes path.bytes := by
  unfold FirstWords at first ⊢
  rw [request_bytes, take_words_takeWhile (by decide), first]
  rw [first]
  intro word member
  rcases List.mem_cons.mp member with rfl | member
  · exact method.noNul
  · rw [List.mem_singleton.mp member]
    exact path.noNul

/-- Two words are what the conversions assign. -/
theorem scanTwo_of_firstWords {text method path : List UInt8}
    (first : FirstWords text method path) : scanTwo isSpace text = (some method, some path) := by
  have at0 : (words isSpace text)[0]? = some method := by
    rw [← List.getElem?_take_of_lt (by decide : 0 < 2), first]
    rfl
  have at1 : (words isSpace text)[1]? = some path := by
    rw [← List.getElem?_take_of_lt (by decide : 1 < 2), first]
    rfl
  rw [scanTwo_eq, at0, at1]

/-- The words that are there fit into their arrays. -/
def WordsFit (request : CString) : Prop :=
  overruns sizeofMethod (scanTwo isSpace request.bytes).1 = false ∧
    overruns sizeofPath (scanTwo isSpace request.bytes).2 = false

/-- `method` and `path` behind `sscanf`. -/
def heldMethod (request : CString) : CString := held stale.method (scanTwo isSpace request.bytes).1

def heldPath (request : CString) : CString := held stale.path (scanTwo isSpace request.bytes).2

theorem held_some (stale text : CString) : held stale (some text.bytes) = text :=
  CString.ofMemory_bytes text

theorem handleHttpRequest_of_fit {request : CString} (fit : WordsFit request) :
    handleHttpRequest overflow stale request =
      dispatch overflow (heldMethod stale request) (heldPath stale request) (bodyOf request) := by
  have inside : ¬ (overruns sizeofMethod (scanTwo isSpace request.bytes).1 = true ∨
      overruns sizeofPath (scanTwo isSpace request.bytes).2 = true) := by
    rw [fit.1, fit.2]
    simp
  exact if_neg inside

theorem handleHttpRequest_of_not_fit {request : CString} (long : ¬ WordsFit request) :
    handleHttpRequest overflow stale request = .undefined := by
  have outside : overruns sizeofMethod (scanTwo isSpace request.bytes).1 = true ∨
      overruns sizeofPath (scanTwo isSpace request.bytes).2 = true := by
    by_contra inside
    rw [not_or, Bool.not_eq_true, Bool.not_eq_true] at inside
    exact long inside
  exact if_pos outside

section Found

variable {method path : CString} (first : FirstWords received.bytes method.bytes path.bytes)

include first

theorem held_of_firstWords :
    heldMethod stale received.request = method ∧ heldPath stale received.request = path := by
  unfold heldMethod heldPath
  rw [scanTwo_of_firstWords (firstWords_request first)]
  exact ⟨held_some _ method, held_some _ path⟩

theorem wordsFit_iff :
    WordsFit received.request ↔ method.length ≤ 15 ∧ path.length ≤ 255 := by
  unfold WordsFit
  rw [scanTwo_of_firstWords (firstWords_request first)]
  have sizes : sizeofMethod = 16 ∧ sizeofPath = 256 := ⟨rfl, rfl⟩
  unfold overruns CString.length
  simp only [Option.any_some, decide_eq_false_iff_not]
  omega

end Found

/-- The first two words have no NUL, and behind `/latest-hash/` in a `GET` stands
the numeral of a number that is recovered. -/
structure WellFormed (form : NumeralForm) (overflow : IntOverflow) (received : Received)
    (method path : CString) : Prop where
  first : FirstWords received.bytes method.bytes path.bytes
  named : method = methodGet → ∀ number, path.bytes = pathLatestHash.bytes ++ number →
    ∃ repoId : UInt32, form.Writes (upToQuery number) repoId.toNat ∧ Recovered overflow repoId

variable {overflow} {stale} {form : NumeralForm}

/-- What is dispatched by its words to an endpoint is well formed. -/
theorem ParsedExactly.wellFormed
    (endpoint : Endpoint (heldMethod stale received.request) (heldPath stale received.request))
    (exact : ParsedExactly form overflow received (dispatch overflow
      (heldMethod stale received.request) (heldPath stale received.request)
      (bodyOf received.request))) :
    ∃ method path, WellFormed form overflow received method path := by
  have notError := mt (dispatch_isError_iff overflow _ (bodyOf received.request) _).mp
    (not_not_intro endpoint)
  rcases exact.byWords with impossible | ⟨method, path, first, _, _, _⟩
  · exact absurd impossible notError
  · refine ⟨method, path, first, ?_⟩
    rintro rfl number under
    have same := held_of_firstWords stale first
    rw [same.1, same.2] at exact notError
    rw [under] at first
    rcases exact.byNumeral number first with impossible | named
    · exact absurd impossible notError
    · exact (dispatch_names_iff overflow _ under).mp named

/-- And what is well formed is dispatched by its words. -/
theorem WellFormed.parsedExactly {method path : CString}
    (wellFormed : WellFormed form overflow received method path)
    (fit : WordsFit received.request) :
    ParsedExactly form overflow received
      (dispatch overflow method path (bodyOf received.request)) where
  byWords := by
    have lengths := (wordsFit_iff wellFormed.first).mp fit
    exact Or.inr ⟨method, path, wellFormed.first, lengths.1, lengths.2, rfl⟩
  byNumeral := by
    intro number asked
    have words := asked.symm.trans wellFormed.first
    have methodSame : methodGet = method := CString.ext (List.cons.inj words).1
    have under : path.bytes = pathLatestHash.bytes ++ number :=
      (List.cons.inj (List.cons.inj words).2).1.symm
    cases methodSame
    exact Or.inr ((dispatch_names_iff overflow _ under).mpr (wellFormed.named rfl number under))

variable (overflow) (stale) (received)

/-- Exact parsing: the words fit, and what reaches an endpoint is well formed. -/
theorem parsed_exactly_iff (form : NumeralForm) :
    ParsedExactly form overflow received (handleClient overflow stale received) ↔
      WordsFit received.request ∧
        (Endpoint (heldMethod stale received.request) (heldPath stale received.request) →
          ∃ method path, WellFormed form overflow received method path) := by
  unfold handleClient
  by_cases fit : WordsFit received.request
  · rw [handleHttpRequest_of_fit overflow stale fit]
    by_cases endpoint : Endpoint (heldMethod stale received.request)
      (heldPath stale received.request)
    · constructor
      · intro exact
        exact ⟨fit, fun _ => exact.wellFormed endpoint⟩
      · rintro ⟨_, condition⟩
        rcases condition endpoint with ⟨method, path, wellFormed⟩
        have same := held_of_firstWords stale wellFormed.first
        rw [same.1, same.2]
        exact wellFormed.parsedExactly fit
    · have isError := (dispatch_isError_iff overflow _ (bodyOf received.request) _).mpr endpoint
      refine iff_of_true ⟨Or.inl isError, fun _ _ => Or.inl isError⟩ ⟨fit, fun reached => ?_⟩
      exact absurd reached endpoint
  · rw [handleHttpRequest_of_not_fit overflow stale fit]
    refine iff_of_false ?_ fun condition => fit condition.1
    intro exact
    rcases exact.byWords with impossible | ⟨method, path, first, short, shortPath, _⟩
    · exact impossible
    · exact fit ((wordsFit_iff first).mpr ⟨short, shortPath⟩)

end FirstTwo

namespace Sample

/-- A query for a repository whose number is none. -/
def junkQuery : Received where
  bytes := (CString.literal "GET /latest-hash/abc HTTP/1.1\r\n\r\n").bytes
  nonempty := by decide +kernel
  fits := by decide +kernel

def junkPath : CString := .literal "/latest-hash/abc"

/-- Arrays that happen to hold nothing. -/
def clean : RequestLocals := ⟨.empty, .empty⟩

theorem firstWords_junkQuery : FirstWords junkQuery.bytes methodGet.bytes junkPath.bytes := by
  unfold FirstWords
  decide +kernel

theorem junkPath_under : junkPath.bytes = pathLatestHash.bytes ++ [97, 98, 99] := by decide +kernel

end Sample

/-- It is answered with the latest hash of repository 0. -/
theorem junk_queries_repository_zero :
    handleClient (.throughLong 64) Sample.clean Sample.junkQuery = .dispatched (.latestHash 0) ∧
      ¬ ParsedExactly .padded (.throughLong 64) Sample.junkQuery
        (handleClient (.throughLong 64) Sample.clean Sample.junkQuery) := by
  have first := Sample.firstWords_junkQuery
  have fit := (wordsFit_iff first).mpr ⟨by decide +kernel, by decide +kernel⟩
  have same := held_of_firstWords Sample.clean first
  have outcome : handleClient (.throughLong 64) Sample.clean Sample.junkQuery =
      .dispatched (.latestHash 0) := by
    rw [handleClient, handleHttpRequest_of_fit _ _ fit, same.1, same.2,
      dispatch_latestHash _ _ Sample.junkPath_under]
    rfl
  refine ⟨outcome, fun exact => ?_⟩
  rw [outcome] at exact
  rw [Sample.junkPath_under] at first
  rcases exact.byNumeral _ first with impossible | ⟨repoId, _, _, digits, _⟩
  · exact impossible
  · exact absurd (digits 97 (by decide)) (by decide)

/-! ## The query that reaches the trusted application -/

section Query

variable (jsonLoads : CString → Option Json) (locals : Locals)

/-- The handler that a request comes to, if it comes to one. -/
def HttpOutcome.handled : HttpOutcome → Option Handled
  | .dispatched request => some (handle jsonLoads locals request)
  | .replied reply => some (.replied reply)
  | .written _ => none
  | .undefined => none

variable {jsonLoads} {locals} {outcome : HttpOutcome} {invocation : Invocation}
variable {reply : Option TeecOperation → Reply}

/-- The command that a handler invokes. -/
def commandOf : Request → UInt32
  | .initRepo _ => Ta.cmdInitRepo
  | .commit _ => Ta.cmdCommit
  | .accessControl _ => Ta.cmdAccessControl
  | .latestHash _ => Ta.cmdGetLatestHash

/-- Where the parsing is exact, the trusted application is asked for the
repository that the request names. -/
theorem queried_repository {form : NumeralForm} {overflow : IntOverflow} {received : Received}
    {number : List UInt8} (exact : ParsedExactly form overflow received outcome)
    (asked : FirstWords received.bytes methodGet.bytes (pathLatestHash.bytes ++ number))
    (invoked : outcome.handled jsonLoads locals = some (.invoked invocation reply)) :
    ∃ repoId : UInt32, invocation.operation.params 0 = .value repoId 0 ∧
      form.Writes (upToQuery number) repoId.toNat := by
  rcases exact.byNumeral number asked with refused | ⟨repoId, rfl, writes⟩
  · cases outcome with
    | replied reply => cases invoked
    | written response => cases refused
    | dispatched request => cases refused
    | undefined => cases refused
  · cases invoked
    exact ⟨repoId, rfl, writes⟩

end Query

end Host
end TrustChain
