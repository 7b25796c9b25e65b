import LibraryScout.Http.Network

/-!
Contract: what becomes of one request that can be sent.

Owns:
- `Network.reply?`, the reply that a request gets, if it gets one;
- that sending takes just that reply and is recorded once, and that a request without a reply is
  recorded too, takes nothing and fails as if the connection had been closed;
- that sending records nothing else, whatever the URL is.

Does not own: what comes of requests to URLs to which none can be sent.
-/

namespace LibraryScout.Http

/-- The reply to a request for a URL: the first that is left, if the request gets to the server. -/
def Network.reply? (network : Network) (proxy? : Option Url) (url : Url) : Option Reply :=
  if network.isReached proxy? url then network.replies.head? else none

@[simp] theorem Network.withAttempt_server? (network : Network) (request : Received) (read : Bool) :
    (network.withAttempt request read).server? = network.server? := rfl

@[simp] theorem Network.withAttempt_replies (network : Network) (request : Received)
    (read : Bool) : (network.withAttempt request read).replies = network.replies := rfl

@[simp] theorem Network.withAttempt_attempts (network : Network) (request : Received)
    (read : Bool) :
    (network.withAttempt request read).attempts = network.attempts ++ [⟨request, read⟩] := rfl

variable {proxy? : Option Url} {request : Request} {network : Network}

/-- A request with a reply takes it, and the reply alone decides. -/
theorem send_of_reply {reply : Reply} (sendable : isSendable request.url = true)
    (next : network.reply? proxy? request.url = some reply) :
    send proxy? request network =
      ⟨reply.outcome request.url, [],
        { network with replies := network.replies.tail }.withAttempt
          (request.received (usedProxy? proxy?).isSome) reply.readsRequest⟩ := by
  unfold Network.reply? at next
  obtain ⟨reached, first⟩ := Option.ite_none_right_eq_some.1 next
  obtain ⟨later, replies⟩ := List.head?_eq_some_iff.1 first
  simp [send, Run.update, sendable, reached, replies]

/-- A request without a reply is sent all the same, and takes nothing. -/
theorem send_of_no_reply (sendable : isSendable request.url = true)
    (none : network.reply? proxy? request.url = none) :
    let ran := send proxy? request network
    (ran.value = .error (.interrupted request.url) ∨
        ran.value = .error (.unreachable request.url)) ∧
      ran.state = network.withAttempt (request.received (usedProxy? proxy?).isSome) false := by
  unfold Network.reply? at none
  cases reached : network.isReached proxy? request.url with
  | false => simp [send, Run.update, sendable, reached]
  | true =>
      have replies : network.replies = [] := by
        simpa [reached] using none
      simp [send, Run.update, sendable, reached, replies]

/-- Sending adds at most one request to those that were sent. -/
theorem send_attempts (proxy? : Option Url) (request : Request) (network : Network) :
    let after := (send proxy? request network).state
    let sent := request.received (usedProxy? proxy?).isSome
    after.attempts = network.attempts ∨
      ∃ read, after.attempts = network.attempts ++ [⟨sent, read⟩] := by
  intro after sent
  cases sendable : isSendable request.url with
  | false =>
      left
      simp [after, send, Run.update, sendable]
  | true =>
      right
      cases next : network.reply? proxy? request.url with
      | none =>
          have state := (send_of_no_reply sendable next).2
          exact ⟨false, congrArg Network.attempts state⟩
      | some reply =>
          have taken := send_of_reply sendable next
          exact ⟨reply.readsRequest, congrArg (fun ran => ran.state.attempts) taken⟩

end LibraryScout.Http
