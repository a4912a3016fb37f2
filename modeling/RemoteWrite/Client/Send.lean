import RemoteWrite.Client.Attempt
import RemoteWrite.Client.Backoff

/-!
Contract: repeating attempts until a write is done.

A write ends with the first attempt that succeeds or fails for good, when the
retries are used up, or when it is cancelled. The stats of all completed
attempts count in every case.

Owns:
- the points at which a write can be cancelled;
- the course of a write: its ending, the requests made, the retries with their
  times and errors, and the events;
- the repetition, with the delays between attempts.

Does not own: the payload, or what an attempt means.
-/

namespace RemoteWrite

inductive CancelPoint where
  | beforeStart
  /-- While the attempt of this number, from zero, is on its way. -/
  | duringAttempt (attempt : Nat)
  /-- In the callback of this retry, from one. -/
  | onRetry (retry : Nat)
  /-- In the delay before this retry, from one. -/
  | duringDelay (retry : Nat)
deriving DecidableEq, Repr

inductive Ending where
  | accepted (stats : WriteStats)
  | failed (failure : WriteFailure)
  /-- A delay and the hint of the server together are longer than any span of
  time. The writer stops with an error that no caller can handle. -/
  | delayOverflow
deriving DecidableEq, Repr

/-- The text of the error that stops a writer. -/
def Ending.overflowMessage : String := "overflow when adding durations"

/-- A call of the retry callback: the milliseconds waited before it, the delay
that follows it, and the error of the attempt before it. -/
structure Retry where
  elapsed : Nat
  delay : Time.Duration
  error : WriteError
deriving DecidableEq, Repr

/-- The longest time that a writer waits, in milliseconds: thirty years of 365
days. -/
def longestWait : Nat := 30 * 365 * 24 * 60 * 60 * 1000

/-- The milliseconds that a writer waits in a delay. -/
def waitMillis (delay : Time.Duration) : Nat :=
  min delay.millisUp longestWait

structure Course (σ : Type) where
  ending : Ending
  state : σ
  /-- The milliseconds waited in all completed delays. -/
  elapsed : Nat
  /-- The requests of all attempts, whether or not a response arrived. -/
  requests : List OutgoingRequest := []
  retries : List Retry := []
  events : List Logging.Event := []

/-- What stays the same throughout a write. -/
structure Sender (σ : Type) where
  network : Network σ
  url : Url
  config : ClientConfig
  payload : Payload
  cancel : Option CancelPoint

namespace Sender

variable {σ : Type}

def cancelled (stats : WriteStats) : Ending := .failed ⟨stats, .cancelled⟩

def acceptance (payload : Payload) (stats : WriteStats) : Ending :=
  match Attempt.checkAcceptance payload stats with
  | .ok stats => .accepted stats
  | .error failure => .failed failure

/-- The write is cancelled between a failed attempt and the retry of the given
number. -/
def cancelsBefore (sender : Sender σ) (retry : Nat) : Bool :=
  sender.cancel = some (.onRetry retry) || sender.cancel = some (.duringDelay retry)

/-- Put what an attempt did in front of what follows it. -/
def precede (requests : List OutgoingRequest) (retries : List Retry)
    (events : List Logging.Event) (course : Course σ) : Course σ :=
  { course with
    requests := requests ++ course.requests
    retries := retries ++ course.retries
    events := events ++ course.events }

/-- Attempts from the current state of the backoff on, after the given stats
and the milliseconds waited. -/
def sendFrom (sender : Sender σ) (backoff : Backoff) (stats : WriteStats) (elapsed : Nat)
    (state : σ) : Course σ :=
  let request := Attempt.request sender.url sender.config sender.payload backoff.attempt
  let (reply, state) := sender.network.post state request
  if sender.cancel = some (.duringAttempt backoff.attempt) then
    { ending := cancelled stats, state, elapsed, requests := [request] }
  else
    let attempt := Attempt.ofReply sender.config (sender.network.now state) reply
    let stats := stats.add attempt.stats
    let done (ending : Ending) (events : List Logging.Event) : Course σ :=
      { ending, state, elapsed, requests := [request], events := attempt.events ++ events }
    match attempt.verdict with
    | .success => done (acceptance sender.payload stats) []
    | .fatal error => done (.failed ⟨stats, error⟩) []
    | .retry error hint =>
      if backoff.canRetry then
        match backoff.delay.add? hint with
        | none => done .delayOverflow []
        | some delay =>
          let retry := backoff.attempt + 1
          precede [request] [⟨elapsed, delay, error⟩] (attempt.events ++ [.retrying retry])
            (if sender.cancelsBefore retry then
              { ending := cancelled stats, state, elapsed }
            else
              sender.sendFrom backoff.advance stats (elapsed + waitMillis delay) state)
      else done (.failed ⟨stats, error⟩) [.retriesExhausted backoff.attempt]
termination_by backoff.remaining
decreasing_by exact Backoff.remaining_advance ‹backoff.canRetry = true›

def send (sender : Sender σ) (state : σ) : Course σ :=
  if sender.cancel = some .beforeStart then
    { ending := cancelled {}, state, elapsed := 0 }
  else sender.sendFrom (.new sender.config.backoff) {} 0 state

end Sender
end RemoteWrite
