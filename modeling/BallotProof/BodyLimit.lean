import BallotProof.RateLimit
import BallotProof.Transition

/-! `RequestBodyLimitMiddleware` between a server and any application. The application is known by
what it does: it receives, sends and ends its call in any order and number, with whatever the server
answers; tasks that it left behind may go on after its call. -/
namespace BallotProof
open Python

/-- What `receive` and an application may raise. -/
inductive AsgiException where
  | requestBodyTooLarge
  | other (name : String)
  deriving DecidableEq

/-- A message that the server answers a `receive` with; a key may be missing. -/
structure RequestMessage where
  type : String
  body : Option Bytes
  moreBody : Option Bool
  deriving DecidableEq

/-- `len(message.get("body", b""))` of a part of the body -/
def RequestMessage.bodyBytes (message : RequestMessage) : Nat :=
  if message.type = "http.request" then (message.body.getD []).length else 0

inductive ResponseMessage where
  | start (status : Nat) (headers : List (Bytes × Bytes))
  | body (data : Bytes) (moreBody : Bool)
  | other (type : String)
  deriving DecidableEq

def ResponseMessage.isStart : ResponseMessage → Bool
  | .start .. => true
  | _ => false

def ascii (text : String) : Bytes := encode text.toList

/-- The body that `_reject` sends. -/
def rejectBody (maxBodyBytes : Nat) : Bytes :=
  ascii ("\x7b\"detail\": \"Request body exceeds configured API limit\", \"max_body_bytes\": " ++
    toString maxBodyBytes ++ "\x7d")

/-- The first message of `_reject`. -/
def rejectStart (maxBodyBytes : Nat) : ResponseMessage :=
  .start 413 [(ascii "content-type", ascii "application/json"),
    (ascii "content-length", ascii (toString (rejectBody maxBodyBytes).length))]

inductive LimitStage where
  | running
  | rejecting
  | ended (raised : Option AsgiException)
  deriving DecidableEq

/-- `called` tells whether the application was called; `passed` and `sent` are the messages that
reached the application and the server. -/
structure LimitState where
  called : Bool
  stage : LimitStage
  observed : Nat
  passed : List RequestMessage
  sent : List ResponseMessage
  deriving DecidableEq

inductive LimitEvent where
  /-- The application awaits `limited_receive`, and the server answers or raises. -/
  | receive (answer : Except AsgiException RequestMessage)
  | send (message : ResponseMessage)
  /-- The call of the application returns or raises. -/
  | finish (raised : Option AsgiException)
  /-- The server took the first message of `_reject`. -/
  | rejectBody
  deriving DecidableEq

section
variable (maxBodyBytes : Nat)

/-- `__call__` up to the call of the application. -/
def LimitState.initial (scope : HttpScope) : LimitState :=
  if bodyRefused maxBodyBytes scope then ⟨false, .rejecting, 0, [], [rejectStart maxBodyBytes]⟩
  else ⟨true, .running, 0, [], []⟩

/-- What an event makes of the state, where it can happen. -/
def LimitState.step (s : LimitState) : LimitEvent → Option LimitState
  | .receive answer =>
    if s.called then
      match answer with
      | .error _ => some s
      | .ok message =>
        let observed := s.observed + message.bodyBytes
        -- `RequestBodyTooLarge` goes to the application, which may catch it
        if message.type = "http.request" ∧ maxBodyBytes < observed then some { s with observed }
        else some { s with observed, passed := s.passed ++ [message] }
    else none
  | .send message => if s.called then some { s with sent := s.sent ++ [message] } else none
  | .finish raised =>
    if s.called ∧ s.stage = .running then
      if raised = some .requestBodyTooLarge then
        some { s with stage := .rejecting, sent := s.sent ++ [rejectStart maxBodyBytes] }
      else some { s with stage := .ended raised }
    else none
  | .rejectBody =>
    if s.stage = .rejecting then
      some { s with
        stage := .ended none
        sent := s.sent ++ [.body (BallotProof.rejectBody maxBodyBytes) false] }
    else none

/-- The bytes of the body that reached the application. -/
def LimitState.passedBytes (s : LimitState) : Nat := (s.passed.map (·.bodyBytes)).sum

/-- The `http.response.start` messages that reached the server. -/
def LimitState.starts (s : LimitState) : Nat := s.sent.countP (·.isStart)

def LimitEvent.sendsStart : LimitEvent → Bool
  | .send message => message.isStart
  | _ => false

/-- The `http.response.start` messages of the application itself. -/
def appStarts (events : List LimitEvent) : Nat := events.countP (·.sendsStart)

/-- `RequestBodyTooLarge` leaves the call of the application. -/
def Escapes (events : List LimitEvent) : Prop := .finish (some .requestBodyTooLarge) ∈ events

instance (events : List LimitEvent) : Decidable (Escapes events) :=
  inferInstanceAs (Decidable (_ ∈ events))

/-- What relates a state to the events that led to it. -/
structure Limited (scope : HttpScope) (events : List LimitEvent) (s : LimitState) : Prop where
  bytes : s.passedBytes ≤ s.observed ∧ s.passedBytes ≤ maxBodyBytes
  called : s.called = !bodyRefused maxBodyBytes scope
  running : s.stage = .running → ¬Escapes events
  silent : s.called = false → appStarts events = 0 ∧ ¬Escapes events
  starts : s.starts = appStarts events +
    if bodyRefused maxBodyBytes scope ∨ Escapes events then 1 else 0

theorem limited_initial (scope : HttpScope) :
    Limited maxBodyBytes scope [] (LimitState.initial maxBodyBytes scope) := by
  unfold LimitState.initial
  by_cases refused : bodyRefused maxBodyBytes scope = true
  · rw [if_pos refused]
    refine ⟨⟨le_rfl, Nat.zero_le _⟩, by simp [refused], ?_, ?_, ?_⟩
    · intro running
      cases running
    · exact fun _ => ⟨rfl, List.not_mem_nil⟩
    · rw [if_pos (.inl refused)]
      rfl
  · rw [if_neg refused]
    refine ⟨⟨le_rfl, Nat.zero_le _⟩, by simp [refused], fun _ => List.not_mem_nil, ?_, ?_⟩
    · intro silent
      cases silent
    · rw [if_neg fun rejects => rejects.elim refused List.not_mem_nil]
      rfl

end

section
variable {maxBodyBytes : Nat} {scope : HttpScope} {done : List LimitEvent} {s t : LimitState}

theorem appStarts_snoc (done : List LimitEvent) (event : LimitEvent) :
    appStarts (done ++ [event]) = appStarts done + if event.sendsStart then 1 else 0 := by
  rw [appStarts, List.countP_append, List.countP_singleton]
  rfl

theorem escapes_snoc : Escapes (done ++ [event]) ↔
    Escapes done ∨ event = .finish (some .requestBodyTooLarge) := by
  simp [Escapes, eq_comm]

/-- A message of the body is passed on only within the limit. -/
theorem passedBytes_snoc {message : RequestMessage}
    (within : ¬(message.type = "http.request" ∧ maxBodyBytes < s.observed + message.bodyBytes))
    (bytes : s.passedBytes ≤ s.observed ∧ s.passedBytes ≤ maxBodyBytes) :
    let t := { s with observed := s.observed + message.bodyBytes, passed := s.passed ++ [message] }
    t.passedBytes ≤ t.observed ∧ t.passedBytes ≤ maxBodyBytes := by
  have sum : ((s.passed ++ [message]).map (·.bodyBytes)).sum = s.passedBytes + message.bodyBytes := by
    simp [LimitState.passedBytes]
  dsimp only [LimitState.passedBytes]
  rw [sum]
  refine ⟨by omega, ?_⟩
  by_cases request : message.type = "http.request"
  · have : ¬maxBodyBytes < s.observed + message.bodyBytes := fun excess => within ⟨request, excess⟩
    omega
  · have none : message.bodyBytes = 0 := by simp [RequestMessage.bodyBytes, request]
    omega

/-- Neither a start of the application nor the exception that leaves it. -/
theorem Limited.quiet (limited : Limited maxBodyBytes scope done s) (event : LimitEvent) (plain : event.sendsStart = false)
    (other : event ≠ .finish (some .requestBodyTooLarge)) :
    Limited maxBodyBytes scope (done ++ [event]) s := by
  obtain ⟨bytes, called, running, silent, starts⟩ := limited
  have same : appStarts (done ++ [event]) = appStarts done := by simp [appStarts_snoc, plain]
  have escapes : Escapes (done ++ [event]) ↔ Escapes done := by
    rw [escapes_snoc, or_iff_left other]
  refine ⟨bytes, called, ?_, ?_, ?_⟩
  · rwa [escapes]
  · rwa [same, escapes]
  · simpa only [same, escapes] using starts

theorem Limited.step (limited : Limited maxBodyBytes scope done s)
    (h : s.step maxBodyBytes event = some t) : Limited maxBodyBytes scope (done ++ [event]) t := by
  cases event with
  | receive answer =>
    have quiet := limited.quiet (.receive answer) rfl (by simp)
    simp only [LimitState.step] at h
    split at h
    · split at h
      · cases h
        exact quiet
      · rename_i message
        split at h
        · cases h
          obtain ⟨bytes, called, running, silent, starts⟩ := quiet
          exact ⟨⟨bytes.1.trans (Nat.le_add_right _ _), bytes.2⟩, called, running, silent, starts⟩
        · rename_i within
          cases h
          obtain ⟨bytes, called, running, silent, starts⟩ := quiet
          exact ⟨passedBytes_snoc within bytes, called, running, silent, starts⟩
    · cases h
  | send message =>
    obtain ⟨bytes, called, running, silent, starts⟩ := limited
    simp only [LimitState.step] at h
    split at h
    · rename_i live
      cases h
      have escapes : Escapes (done ++ [.send message]) ↔ Escapes done := by
        rw [escapes_snoc, or_iff_left (by simp)]
      refine ⟨bytes, called, ?_, ?_, ?_⟩
      · rwa [escapes]
      · intro off
        exact Bool.noConfusion (live.symm.trans off)
      · dsimp only [LimitState.starts] at starts ⊢
        rw [List.countP_append, List.countP_singleton, starts, appStarts_snoc]
        simp only [escapes, LimitEvent.sendsStart]
        exact Nat.add_right_comm _ _ _
    · cases h
  | finish raised =>
    simp only [LimitState.step] at h
    split at h
    · rename_i live
      split at h
      · rename_i escape
        cases h
        obtain ⟨bytes, called, running, silent, starts⟩ := limited
        have refused : bodyRefused maxBodyBytes scope = false := by simpa [live.1] using called
        have escapes : Escapes (done ++ [.finish raised]) :=
          escapes_snoc.mpr (.inr (by rw [escape]))
        refine ⟨bytes, called, ?_, ?_, ?_⟩
        · intro running
          cases running
        · intro off
          exact Bool.noConfusion (live.1.symm.trans off)
        · have before : ¬Escapes done := running live.2
          have sent : (s.sent ++ [rejectStart maxBodyBytes]).countP (·.isStart) = s.starts + 1 := by
            rw [List.countP_append]
            rfl
          have none : s.starts = appStarts done := by simpa [refused, before] using starts
          dsimp only [LimitState.starts]
          rw [sent, none, appStarts_snoc, if_pos (Or.inr escapes)]
          rfl
      · rename_i other
        cases h
        obtain ⟨bytes, called, running, silent, starts⟩ :=
          limited.quiet (.finish raised) rfl (by simpa using other)
        refine ⟨bytes, called, ?_, silent, starts⟩
        intro running
        cases running
    · cases h
  | rejectBody =>
    simp only [LimitState.step] at h
    split at h
    · cases h
      obtain ⟨bytes, called, running, silent, starts⟩ := limited.quiet .rejectBody rfl (by simp)
      refine ⟨bytes, called, ?_, silent, ?_⟩
      · intro running
        cases running
      · rw [← starts]
        dsimp only [LimitState.starts]
        rw [List.countP_append]
        rfl
    · cases h

/-- At most the configured number of bytes of the body reaches the application in every run. The server
gets at most one start of a response from an application that sends at most one, unless it sends one
and lets `RequestBodyTooLarge` out of its call. -/
theorem bodyLimit_iff (run : Transition.run (LimitState.step maxBodyBytes)
      (LimitState.initial maxBodyBytes scope) events = some s) (once : appStarts events ≤ 1) :
    s.passedBytes ≤ maxBodyBytes ∧ (s.starts ≤ 1 ↔ ¬(appStarts events = 1 ∧ Escapes events)) := by
  have limited : Limited maxBodyBytes scope events s :=
    Transition.run_history (fun _ _ _ _ limited step => limited.step step)
      (limited_initial maxBodyBytes scope) run
  refine ⟨limited.bytes.2, ?_⟩
  have starts := limited.starts
  by_cases refused : bodyRefused maxBodyBytes scope = true
  · obtain ⟨none, kept⟩ := limited.silent (by rw [limited.called, refused]; rfl)
    rw [if_pos (.inl refused), none] at starts
    simp [starts, none]
  · by_cases escapes : Escapes events
    · rw [if_pos (.inr escapes)] at starts
      simp only [escapes, and_true]
      omega
    · rw [if_neg fun rejects => rejects.elim refused escapes] at starts
      simp only [escapes, and_false, not_false_eq_true, iff_true]
      omega

/-- An application that answers before it reads, with a body over the limit. -/
def earlyAnswer : List LimitEvent :=
  [.send (.start 200 []), .receive (.ok ⟨"http.request", some [0, 0, 0, 0, 0], some false⟩),
    .finish (some .requestBodyTooLarge)]

def plainScope : HttpScope := ⟨"POST", [], none⟩

theorem earlyAnswer_restarts : (Transition.run (LimitState.step 4) (LimitState.initial 4 plainScope)
    earlyAnswer).map (·.starts) = some 2 ∧ appStarts earlyAnswer = 1 := by
  decide +kernel

/-- An application that reads a body of four bytes and then answers. -/
def lateAnswer : List LimitEvent :=
  [.receive (.ok ⟨"http.request", some [0, 0, 0, 0], some false⟩), .send (.start 200 []), .finish none]

def lateAnswered : LimitState :=
  ⟨true, .ended none, 4, [⟨"http.request", some [0, 0, 0, 0], some false⟩], [.start 200 []]⟩

theorem lateAnswer_limited : lateAnswered.passedBytes ≤ 4 ∧
    (lateAnswered.starts ≤ 1 ↔ ¬(appStarts lateAnswer = 1 ∧ Escapes lateAnswer)) :=
  @bodyLimit_iff 4 plainScope lateAnswered lateAnswer (by decide +kernel) (by decide)

end

end BallotProof
