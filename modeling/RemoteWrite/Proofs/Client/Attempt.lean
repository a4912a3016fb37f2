import RemoteWrite.Client.Attempt
import RemoteWrite.Proofs.Stats.Counter

/-!
Contract: what an attempt sends and what its reply means.

Owns:
- the requests of a payload, which differ in the count of retries alone;
- the replies that succeed, those that are worth a retry, and the error that
  every other reply stands for;
- what a reply counts, and how long it asks the client to wait.

Does not own: how many attempts there are.
-/

namespace RemoteWrite

/-! ## Requests -/

/-- The request carries the payload and says which retry it is. -/
structure OutgoingRequest.Carries (request : OutgoingRequest) (config : ClientConfig)
    (payload : Payload) (index : Nat) : Prop where
  body : request.body = payload.body
  contentType :
    request.headers.values Http.contentTypeName = [Text.utf8 payload.protocol.contentType]
  contentEncoding :
    request.headers.values Http.contentEncodingName = [Text.utf8 config.compression.name]
  version :
    request.headers.values versionHeaderName = [Text.utf8 payload.protocol.version]
  retryAttempt :
    request.headers.values retryAttemptHeaderName =
      if index = 0 then [] else [Text.utf8 (Text.Numeral.render index)]

namespace Attempt

/-- The names of an attempt's headers are spelled as they are kept. -/
theorem fields_requestHeaders (config : ClientConfig) (payload : Payload) (index : Nat) :
    (requestHeaders config payload index).fields = [
      (Http.contentEncodingName, Text.utf8 config.compression.name),
      (Http.contentTypeName, Text.utf8 payload.protocol.contentType),
      (versionHeaderName, Text.utf8 payload.protocol.version),
      (Http.userAgentName, Text.utf8 config.userAgent)] ++
      if index = 0 then [] else
        [(retryAttemptHeaderName, Text.utf8 (Text.Numeral.render index))] := by
  have contentEncoding : Http.canonicalName Http.contentEncodingName =
    Http.contentEncodingName := by decide
  have contentType : Http.canonicalName Http.contentTypeName = Http.contentTypeName := by decide
  have version : Http.canonicalName versionHeaderName = versionHeaderName := by decide
  have userAgent : Http.canonicalName Http.userAgentName = Http.userAgentName := by decide
  have retryAttempt : Http.canonicalName retryAttemptHeaderName = retryAttemptHeaderName := by
    decide
  rw [requestHeaders]
  by_cases first : index = 0
  · simp only [if_pos first, Http.Headers.ofList, List.map_cons, List.map_nil, List.append_nil,
      contentEncoding, contentType, version, userAgent]
  · simp only [if_neg first, Http.Headers.ofList, List.map_append, List.map_cons, List.map_nil,
      contentEncoding, contentType, version, userAgent, retryAttempt]

theorem carries_request (url : Url) (config : ClientConfig) (payload : Payload) (index : Nat) :
    (request url config payload index).Carries config payload index := by
  have fields := fields_requestHeaders config payload index
  constructor
  case body => rfl
  all_goals
    rw [request, Http.Headers.values, fields]
    by_cases first : index = 0
    · simp only [if_pos first]
      rfl
    · simp only [if_neg first]
      rfl

/-- Requests leave the announcement of their length to the network. -/
theorem values_contentLength (url : Url) (config : ClientConfig) (payload : Payload) :
    (request url config payload 0).headers.values Http.contentLengthName = [] := by
  rw [request, Http.Headers.values, fields_requestHeaders, if_pos rfl]
  rfl

/-- The first request of a payload can be sent if the URL is one of the
protocol and the name of the client is a header value. -/
theorem isSendable_request {url : Url} {config : ClientConfig} (payload : Payload)
    (reachable : url.scheme = "http" ∨ url.scheme = "https")
    (named : isHeaderValue (Text.utf8 config.userAgent) = true) :
    (request url config payload 0).isSendable = true := by
  have compression : isHeaderValue (Text.utf8 config.compression.name) = true := by
    cases config.compression
    decide
  have contentType : isHeaderValue (Text.utf8 payload.protocol.contentType) = true := by
    cases payload.protocol <;> decide
  have version : isHeaderValue (Text.utf8 payload.protocol.version) = true := by
    cases payload.protocol <;> decide
  have scheme : (url.scheme = "http" || url.scheme = "https") = true := by
    rwa [Bool.or_eq_true, decide_eq_true_eq, decide_eq_true_eq]
  rw [OutgoingRequest.isSendable, request, scheme, fields_requestHeaders, if_pos rfl]
  simp only [List.append_nil, List.all_cons, List.all_nil, compression, contentType, version,
    named, Bool.and_self]

end Attempt

/-! ## Replies -/

namespace Reply

/-- The reply is a reason to repeat the request: there is no response, the
server failed, or it wants fewer requests and the client may insist. -/
def isRetryable (config : ClientConfig) : Reply → Bool
  | .transportFailure => true
  | .response reply =>
    reply.status.isServerError || (reply.status = .tooManyRequests && config.retryOnRateLimit)

/-- The reply is a `2xx` response. -/
def isSuccess : Reply → Bool
  | .transportFailure => false
  | .response reply => reply.status.isSuccess

/-- The error that a reply stands for unless it is a success. -/
def error : Reply → WriteError
  | .transportFailure => .transport
  | .response reply =>
    if reply.status.isServerError then .serverError reply.status (bodyExcerpt reply.body)
    else if reply.status = .tooManyRequests then .rateLimited (bodyExcerpt reply.body)
    else .refused reply.status (bodyExcerpt reply.body)

/-- The error of a response quotes its body in one of three ways. -/
theorem error_response (reply : ServerReply) :
    (response reply).error = .serverError reply.status (bodyExcerpt reply.body) ∨
      (response reply).error = .rateLimited (bodyExcerpt reply.body) ∨
      (response reply).error = .refused reply.status (bodyExcerpt reply.body) := by
  rw [error]
  by_cases serverError : reply.status.isServerError
  · exact .inl (if_pos serverError)
  · rw [if_neg serverError]
    by_cases rateLimit : reply.status = .tooManyRequests
    · exact .inr (.inl (if_pos rateLimit))
    · exact .inr (.inr (if_neg rateLimit))

/-- How long a reply asks the client to wait, at the given time. -/
def hint (now : Time.Duration) : Reply → Time.Duration
  | .transportFailure => .zero
  | .response reply => Attempt.hint now reply.headers

def counted (counter : Counter) : Reply → Nat
  | .transportFailure => 0
  | .response reply => counter.counted reply.headers

/-- The reply is a response with a stats header that is not empty. -/
def confirms : Reply → Bool
  | .transportFailure => false
  | .response reply => Counter.all.any (Counter.reported reply.headers)

end Reply

namespace Http.Status

theorem not_isServerError_of_isSuccess {status : Status} (success : status.isSuccess = true) :
    status.isServerError = false := by
  simp only [isSuccess, isServerError, Bool.and_eq_true, decide_eq_true_eq, Bool.and_eq_false_iff,
    decide_eq_false_iff_not] at success ⊢
  omega

theorem ne_tooManyRequests_of_isSuccess {status : Status} (success : status.isSuccess = true) :
    status ≠ .tooManyRequests := by
  rintro rfl
  exact absurd success (by decide)

end Http.Status

namespace Attempt

/-- A reply means success, a retry, or the end. -/
theorem verdict_ofReply (config : ClientConfig) (now : Time.Duration) (reply : Reply) :
    (reply.isSuccess = true ∧ reply.isRetryable config = false ∧
      (ofReply config now reply).verdict = .success) ∨
    (reply.isSuccess = false ∧ reply.isRetryable config = true ∧
      (ofReply config now reply).verdict = .retry reply.error (reply.hint now)) ∨
    (reply.isSuccess = false ∧ reply.isRetryable config = false ∧
      (ofReply config now reply).verdict = .fatal reply.error) := by
  cases reply with
  | transportFailure => exact .inr (.inl ⟨rfl, rfl, rfl⟩)
  | response reply =>
      simp only [Reply.isSuccess, Reply.isRetryable, Reply.error, Reply.hint, ofReply]
      cases success : reply.status.isSuccess with
      | true =>
          have noServerError := Http.Status.not_isServerError_of_isSuccess success
          have noRateLimit := Http.Status.ne_tooManyRequests_of_isSuccess success
          exact .inl ⟨rfl, by rw [noServerError, decide_eq_false noRateLimit]; rfl, rfl⟩
      | false =>
          simp only [Bool.false_eq_true, if_false, true_and, false_and, false_or, failureVerdict]
          cases serverError : reply.status.isServerError with
          | true => exact .inl ⟨rfl, rfl⟩
          | false =>
              by_cases rateLimit : reply.status = .tooManyRequests
              · simp only [if_pos rateLimit, decide_eq_true rateLimit, Bool.true_and,
                  Bool.false_or, Bool.false_eq_true, if_false]
                cases config.retryOnRateLimit with
                | true => exact .inl ⟨rfl, rfl⟩
                | false => exact .inr ⟨rfl, rfl⟩
              · simp only [if_neg rateLimit, decide_eq_false rateLimit, Bool.false_and,
                  Bool.or_false, Bool.false_eq_true, if_false]
                exact .inr ⟨trivial, trivial⟩

theorem reply_of_success {config : ClientConfig} {now : Time.Duration} {reply : Reply}
    (verdict : (ofReply config now reply).verdict = .success) :
    reply.isSuccess = true ∧ reply.isRetryable config = false := by
  rcases verdict_ofReply config now reply with
    ⟨success, final, _⟩ | ⟨_, _, other⟩ | ⟨_, _, other⟩
  · exact ⟨success, final⟩
  · cases verdict.symm.trans other
  · cases verdict.symm.trans other

theorem verdict_of_isSuccess {reply : Reply} (success : reply.isSuccess = true)
    (config : ClientConfig) (now : Time.Duration) :
    (ofReply config now reply).verdict = .success := by
  rcases verdict_ofReply config now reply with
    ⟨_, _, verdict⟩ | ⟨failure, _, _⟩ | ⟨failure, _, _⟩
  · exact verdict
  · cases success.symm.trans failure
  · cases success.symm.trans failure

theorem reply_of_retry {config : ClientConfig} {now hint : Time.Duration} {reply : Reply}
    {error : WriteError} (verdict : (ofReply config now reply).verdict = .retry error hint) :
    reply.isSuccess = false ∧ reply.isRetryable config = true ∧ error = reply.error := by
  rcases verdict_ofReply config now reply with
    ⟨_, _, other⟩ | ⟨failure, retryable, same⟩ | ⟨_, _, other⟩
  · cases verdict.symm.trans other
  · cases verdict.symm.trans same
    exact ⟨failure, retryable, rfl⟩
  · cases verdict.symm.trans other

/-- A retry waits for what its reply asks for. -/
theorem hint_of_retry {config : ClientConfig} {now hint : Time.Duration} {reply : Reply}
    {error : WriteError} (verdict : (ofReply config now reply).verdict = .retry error hint) :
    hint = reply.hint now := by
  rcases verdict_ofReply config now reply with
    ⟨_, _, other⟩ | ⟨_, _, same⟩ | ⟨_, _, other⟩
  · cases verdict.symm.trans other
  · cases verdict.symm.trans same
    rfl
  · cases verdict.symm.trans other

theorem reply_of_fatal {config : ClientConfig} {now : Time.Duration} {reply : Reply}
    {error : WriteError} (verdict : (ofReply config now reply).verdict = .fatal error) :
    reply.isSuccess = false ∧ reply.isRetryable config = false ∧ error = reply.error := by
  rcases verdict_ofReply config now reply with
    ⟨_, _, other⟩ | ⟨_, _, other⟩ | ⟨failure, final, same⟩
  · cases verdict.symm.trans other
  · cases verdict.symm.trans other
  · cases verdict.symm.trans same
    exact ⟨failure, final, rfl⟩

theorem stats_ofReply (config : ClientConfig) (now : Time.Duration) (reply : ServerReply) :
    (ofReply config now (.response reply)).stats = .ofValidHeaders reply.headers := by
  have reported : (reportedStats reply.headers).1 = .ofValidHeaders reply.headers := by
    rw [reportedStats, WriteStats.ofValidHeaders]
    cases WriteStats.ofHeaders reply.headers <;> rfl
  rw [ofReply]
  by_cases success : reply.status.isSuccess
  · simpa only [if_pos success] using reported
  · simpa only [if_neg success] using reported

/-- An attempt counts what its reply counts, whatever its status. -/
theorem toNat_read_ofReply (config : ClientConfig) (now : Time.Duration) (reply : Reply)
    (counter : Counter) :
    (counter.read (ofReply config now reply).stats).toNat = reply.counted counter := by
  cases reply with
  | transportFailure => cases counter <;> rfl
  | response reply =>
      rw [stats_ofReply]
      exact WriteStats.read_ofValidHeaders reply.headers counter

/-- An attempt is confirmed if its reply confirms anything. -/
theorem confirmed_ofReply (config : ClientConfig) (now : Time.Duration) (reply : Reply) :
    (ofReply config now reply).stats.confirmed = reply.confirms := by
  cases reply with
  | transportFailure => rfl
  | response reply =>
      rw [stats_ofReply]
      exact WriteStats.confirmed_ofValidHeaders reply.headers

end Attempt
end RemoteWrite
