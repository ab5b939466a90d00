import BallotProof.Strings
import BallotProof.Datetime
import BallotProof.Bytes
import Mathlib.Data.Set.Basic

/-! The two rate limiters of the production application over one table of windows: requests
interleave in any order, and each call of `consume` reads the clock of the database. -/
namespace BallotProof
open Python

/-- What the middlewares read of an HTTP scope, with headers decoded as Latin-1. -/
structure HttpScope where
  method : String
  headers : List (String × String)
  client : Option String
  deriving DecidableEq

/-- `c.lower()` of a Latin-1 character. -/
def latin1Lower (c : Char) : Char :=
  if c.isUpper ∨ (0xC0 ≤ c.toNat ∧ c.toNat ≤ 0xDE ∧ c.toNat ≠ 0xD7) then Char.ofNat (c.toNat + 32) else c

/-- `headers.get(name)`, of the dict with lower-case keys. -/
def HttpScope.header (scope : HttpScope) (name : String) : Option String :=
  (scope.headers.reverse.find? fun header => header.1.toList.map latin1Lower = name.toList).map (·.2)

inductive Bucket where
  | read
  | write
  deriving DecidableEq

def Bucket.value : Bucket → String
  | .read => "read"
  | .write => "write"

def HttpScope.bucket (scope : HttpScope) : Bucket :=
  if scope.method.toUpper ∈ ["GET", "HEAD", "OPTIONS"] then .read else .write

/-- `RateLimitMiddleware._scope_key` -/
def scopeKey (sha256 : Bytes → Digest) (scope : HttpScope) : String :=
  let authorization := (scope.header "authorization").getD ""
  let identity :=
    if authorization ≠ "" then "auth:" ++ (sha256 (encode authorization.toList)).hex
    else "ip:" ++ (sha256 (encode (scope.client.getD "unknown").toList)).hex
  scope.bucket.value ++ ":" ++ identity

theorem scopeKey_bucket {sha256 : Bytes → Digest} {a b : HttpScope}
    (same : scopeKey sha256 a = scopeKey sha256 b) : a.bucket = b.bucket := by
  have first := congrArg (fun key : String => key.toList.head?) same
  cases left : a.bucket <;> cases right : b.bucket <;> simp [scopeKey, left, right, Bucket.value] at first ⊢

/-- `rate_limits_from_env`: each is checked by `_positive_limit`. -/
structure RateLimits where
  limit : Bucket → Nat
  positive : ∀ bucket, 1 ≤ limit bucket
  bounded : ∀ bucket, limit bucket ≤ 100000

structure RateLimitDecision where
  allowed : Bool
  limit : Nat
  remaining : Nat
  retryAfterSeconds : Nat
  deriving DecidableEq

/-- `window_started_at`, as minutes since 1970. -/
abbrev RateWindow := Nat

/-- `date_trunc('minute', t)` -/
def windowOf (t : Instant) : RateWindow := t / 60000000

/-- `request_count` of `api_rate_windows`; zero where there is no row. -/
abbrev RateWindows := String → RateWindow → Nat

def RateWindows.set (windows : RateWindows) (key : String) (window : RateWindow) (count : Nat) : RateWindows :=
  fun k w => if k = key ∧ w = window then count else windows k w

/-- The largest INTEGER. -/
def maxInteger : Nat := 2 ^ 31 - 1

/-- The two readings of `clock_timestamp()` in one statement. -/
structure ClockReadings where
  inserted : Instant
  returned : Instant
  deriving DecidableEq

/-- `PostgresFixedWindowRateLimiter.consume`, or none where the database raises. -/
def consume (windows : RateWindows) (key : String) (limit : Nat) :
    Option ClockReadings → Option (RateLimitDecision × RateWindows)
  | none => none
  | some clock =>
    let window := windowOf clock.inserted
    let count := windows key window + 1
    if maxInteger < count then none
    else some
      (⟨count ≤ limit, limit, limit - count, max 1 (((window + 1) * 60000000 - clock.returned) / 1000000)⟩,
        windows.set key window count)

/-- How the middlewares answer. The routes and the exception handlers of the application never
answer 429. -/
inductive EdgeAnswer where
  | bodyTooLarge
  | limiterUnavailable
  | limitExceeded (decision : RateLimitDecision)
  | application
  deriving DecidableEq

def EdgeAnswer.Is429 : EdgeAnswer → Prop
  | .limitExceeded _ => True
  | _ => False

/-- A request, with what the clock of the database says at each limiter that it reaches. -/
structure EdgeRequest where
  scope : HttpScope
  edge : Option ClockReadings
  inner : Option ClockReadings
  deriving DecidableEq

/-- `RequestBodyLimitMiddleware` answers at once. -/
def bodyRefused (maxBodyBytes : Nat) (scope : HttpScope) : Bool :=
  match scope.header "content-length" with
  | none => false
  | some text =>
    match intOfText text.toList with
    | none => true
    | some declared => maxBodyBytes < declared

/-- Where a request is in the stack of `_install_edge_controls` over `install_auth_middleware`. -/
inductive EdgeStage where
  | arrived
  | pastEdge
  | answered (answer : EdgeAnswer)
  deriving DecidableEq

structure EdgeState where
  windows : RateWindows
  stage : Nat → EdgeStage

def EdgeState.move (s : EdgeState) (i : Nat) (stage : EdgeStage) (windows : RateWindows) : EdgeState where
  windows := windows
  stage j := if j = i then stage else s.stage j

structure EdgeControls where
  sha256 : Bytes → Digest
  limits : RateLimits
  maxBodyBytes : Nat

namespace EdgeControls
variable (controls : EdgeControls) (requests : Nat → EdgeRequest)

/-- `RateLimitMiddleware.__call__`, before an application that begins at a stage. -/
def rateLimit (s : EdgeState) (i : Nat) (clock : Option ClockReadings) (app : EdgeStage) : EdgeState :=
  let scope := (requests i).scope
  match consume s.windows (scopeKey controls.sha256 scope) (controls.limits.limit scope.bucket) clock with
  | none => s.move i (.answered .limiterUnavailable) s.windows
  | some (decision, windows) =>
    if decision.allowed then s.move i app windows else s.move i (.answered (.limitExceeded decision)) windows

/-- A request goes on to its next answer of a limiter. -/
def step (s : EdgeState) (i : Nat) : EdgeState :=
  match s.stage i with
  | .arrived =>
    if bodyRefused controls.maxBodyBytes (requests i).scope then s.move i (.answered .bodyTooLarge) s.windows
    else controls.rateLimit requests s i (requests i).edge .pastEdge
  | .pastEdge => controls.rateLimit requests s i (requests i).inner (.answered .application)
  | .answered _ => s

/-- The state after a history, whose latest step is its head. -/
def after : List Nat → EdgeState
  | [] => ⟨fun _ _ => 0, fun _ => .arrived⟩
  | i :: history => controls.step requests (after history) i

/-- The window that the next step of a request counts in, if no limiter refuses it. -/
def edgeWindow (i : Nat) : Option RateWindow :=
  if bodyRefused controls.maxBodyBytes (requests i).scope then none
  else (requests i).edge.map (windowOf ·.inserted)

def innerWindow (i : Nat) : Option RateWindow :=
  (controls.edgeWindow requests i).bind fun _ => (requests i).inner.map (windowOf ·.inserted)

abbrev keyOf (i : Nat) : String := scopeKey controls.sha256 (requests i).scope

abbrev limitOf (i : Nat) : Nat := controls.limits.limit (requests i).scope.bucket

/-- How many requests of a key reach the edge limiter in a window. -/
def edgePasses (key : String) (window : RateWindow) (history : List Nat) : Nat :=
  history.dedup.countP fun i => controls.keyOf requests i = key ∧ controls.edgeWindow requests i = some window

/-- How many requests of a key take their second step in a window, unless the edge refuses them. -/
def innerPasses (key : String) (window : RateWindow) (history : List Nat) : Nat :=
  history.dedup.countP fun i =>
    controls.keyOf requests i = key ∧ 2 ≤ history.count i ∧ controls.innerWindow requests i = some window

/-- Both kinds. -/
def passes (key : String) (window : RateWindow) (history : List Nat) : Nat :=
  controls.edgePasses requests key window history + controls.innerPasses requests key window history

/-- Where the next step of a request counts. -/
def dueWindow (history : List Nat) (i : Nat) : Option RateWindow :=
  if history.count i = 0 then controls.edgeWindow requests i
  else if history.count i = 1 then controls.innerWindow requests i
  else none

/-- Where it leads. -/
def dueStage (history : List Nat) (i : Nat) : EdgeStage :=
  if history.count i = 0 then .pastEdge else .answered .application

theorem edgePasses_cons (key : String) (window : RateWindow) (i : Nat) (history : List Nat) :
    controls.edgePasses requests key window (i :: history) = controls.edgePasses requests key window history +
      if controls.keyOf requests i = key ∧ history.count i = 0 ∧ controls.edgeWindow requests i = some window
      then 1 else 0 := by
  unfold edgePasses
  by_cases known : i ∈ history
  · have count : history.count i ≠ 0 := (List.count_pos_iff.mpr known).ne'
    rw [List.dedup_cons_of_mem known]
    simp [count]
  · have count : history.count i = 0 := List.count_eq_zero.mpr known
    rw [List.dedup_cons_of_notMem known, List.countP_cons]
    simp [count]

theorem innerPasses_cons (key : String) (window : RateWindow) (i : Nat) (history : List Nat) :
    controls.innerPasses requests key window (i :: history) = controls.innerPasses requests key window history +
      if controls.keyOf requests i = key ∧ history.count i = 1 ∧ controls.innerWindow requests i = some window
      then 1 else 0 := by
  have others : ∀ l : List Nat, i ∉ l →
      (l.countP fun j => controls.keyOf requests j = key ∧ 2 ≤ (i :: history).count j ∧
        controls.innerWindow requests j = some window) =
      l.countP fun j => controls.keyOf requests j = key ∧ 2 ≤ history.count j ∧
        controls.innerWindow requests j = some window := by
    intro l outside
    apply List.countP_congr
    intro j member
    have apart : i ≠ j := fun same => outside (same ▸ member)
    rw [List.count_cons_of_ne apart]
  have again : (i :: history).count i = history.count i + 1 := by simp
  unfold innerPasses
  by_cases known : i ∈ history
  · have perm := List.perm_cons_erase (List.mem_dedup.mpr known)
    have outside : i ∉ history.dedup.erase i := by
      rw [(List.nodup_dedup history).mem_erase_iff]
      exact fun h => h.1 rfl
    have positive := List.count_pos_iff.mpr known
    rw [List.dedup_cons_of_mem known, perm.countP_eq, perm.countP_eq, List.countP_cons, List.countP_cons,
      others _ outside, again]
    by_cases mine : controls.keyOf requests i = key ∧ controls.innerWindow requests i = some window
    · by_cases second : history.count i = 1
      · simp [mine, second]
      · have more : 2 ≤ history.count i := by omega
        simp [mine, second, more, Nat.le_succ_of_le more]
    · have elsewhere : ∀ p : Prop, ¬(controls.keyOf requests i = key ∧ p ∧
          controls.innerWindow requests i = some window) := fun p h => mine ⟨h.1, h.2.2⟩
      simp only [elsewhere, decide_false, Bool.false_eq_true, if_false]
  · have count : history.count i = 0 := List.count_eq_zero.mpr known
    have outside : i ∉ history.dedup := fun member => known (List.mem_dedup.mp member)
    rw [List.dedup_cons_of_notMem known, List.countP_cons, others _ outside, again, count]
    simp

theorem passes_cons (key : String) (window : RateWindow) (i : Nat) (history : List Nat) :
    controls.passes requests key window (i :: history) = controls.passes requests key window history +
      if controls.keyOf requests i = key ∧ controls.dueWindow requests history i = some window then 1 else 0 := by
  simp only [passes, edgePasses_cons, innerPasses_cons, dueWindow]
  by_cases mine : scopeKey controls.sha256 (requests i).scope = key
  · by_cases first : history.count i = 0
    · simp [mine, first]
      omega
    · by_cases second : history.count i = 1
      · simp [mine, second]
        omega
      · simp [first, second]
  · simp [mine]

/-- What one step of a request can do. -/
inductive Turn (s : EdgeState) (i : Nat) (due : Option RateWindow) (app : EdgeStage) : EdgeState → Prop
  | idle (answer : EdgeAnswer) (answered : s.stage i = .answered answer) : Turn s i due app s
  | uncounted (running : ∀ answer, s.stage i ≠ .answered answer) (answer : EdgeAnswer) (other : ¬answer.Is429)
      (full : ∀ w, due = some w → maxInteger ≤ s.windows (controls.keyOf requests i) w) :
      Turn s i due app (s.move i (.answered answer) s.windows)
  | passed (running : ∀ answer, s.stage i ≠ .answered answer) (w : RateWindow) (here : due = some w)
      (within : s.windows (controls.keyOf requests i) w + 1 ≤ controls.limitOf requests i) :
      Turn s i due app (s.move i app (s.windows.set (controls.keyOf requests i) w
        (s.windows (controls.keyOf requests i) w + 1)))
  | refused (running : ∀ answer, s.stage i ≠ .answered answer) (w : RateWindow) (here : due = some w) (decision : RateLimitDecision)
      (beyond : controls.limitOf requests i < s.windows (controls.keyOf requests i) w + 1) :
      Turn s i due app (s.move i (.answered (.limitExceeded decision)) (s.windows.set (controls.keyOf requests i) w
        (s.windows (controls.keyOf requests i) w + 1)))

variable {controls requests}

theorem rateLimit_turn {s : EdgeState} {i : Nat} (running : ∀ answer, s.stage i ≠ .answered answer)
    (clock : Option ClockReadings) (app : EdgeStage) :
    controls.Turn requests s i (clock.map (windowOf ·.inserted)) app (controls.rateLimit requests s i clock app) := by
  unfold rateLimit consume
  cases clock with
  | none =>
    exact .uncounted running _ id nofun
  | some clock =>
    by_cases overflow : maxInteger < s.windows (controls.keyOf requests i) (windowOf clock.inserted) + 1
    · simp only [overflow, if_true, Option.map_some]
      refine .uncounted running _ id fun w here => ?_
      cases here
      omega
    · by_cases within : s.windows (controls.keyOf requests i) (windowOf clock.inserted) + 1 ≤
          controls.limitOf requests i
      · simp only [overflow, if_false, within, decide_true, if_true, Option.map_some]
        exact .passed running _ rfl within
      · simp only [overflow, if_false, within, decide_false, Bool.false_eq_true, Option.map_some]
        exact .refused running _ rfl _ (not_le.mp within)

/-- The stage of a request tells how often it has stepped. -/
structure Placed (controls : EdgeControls) (requests : Nat → EdgeRequest) (history : List Nat) (i : Nat) : Prop where
  arrived : (controls.after requests history).stage i = .arrived ↔ history.count i = 0
  pastEdge : (controls.after requests history).stage i = .pastEdge →
    history.count i = 1 ∧ (controls.edgeWindow requests i).isSome

theorem Placed.turn (placed : controls.Placed requests history i) :
    controls.Turn requests (controls.after requests history) i (controls.dueWindow requests history i)
      (dueStage history i) (controls.after requests (i :: history)) := by
  change controls.Turn requests _ i _ _ (controls.step requests (controls.after requests history) i)
  cases stage : (controls.after requests history).stage i with
  | arrived =>
    have first := placed.arrived.mp stage
    have running : ∀ answer, (controls.after requests history).stage i ≠ .answered answer := by simp [stage]
    simp only [step, stage, dueWindow, dueStage, first, if_true]
    by_cases refused : bodyRefused controls.maxBodyBytes (requests i).scope = true
    · simp only [refused, if_true, edgeWindow]
      exact .uncounted running _ id nofun
    · simp only [refused, edgeWindow]
      exact rateLimit_turn running _ _
  | pastEdge =>
    obtain ⟨second, some⟩ := placed.pastEdge stage
    obtain ⟨w, here⟩ := Option.isSome_iff_exists.mp some
    have running : ∀ answer, (controls.after requests history).stage i ≠ .answered answer := by simp [stage]
    simp only [step, stage, dueWindow, dueStage, second, one_ne_zero, if_false, if_true, innerWindow, here, Option.bind_some]
    exact rateLimit_turn running _ _
  | answered answer =>
    simp only [step, stage]
    exact .idle answer stage

@[simp] theorem move_stage (s : EdgeState) : (s.move i stage windows).stage i = stage := by
  simp [EdgeState.move]

/-- A step leaves every other request where it is. -/
theorem Turn.others (turn : controls.Turn requests s i due app t) (other : j ≠ i) : t.stage j = s.stage j := by
  cases turn <;> simp [EdgeState.move, other]

theorem Turn.own (turn : controls.Turn requests s i due app t) :
    (∃ answer, t.stage i = .answered answer) ∨ (t.stage i = app ∧ due.isSome) := by
  cases turn with
  | idle answer answered => exact .inl ⟨answer, answered⟩
  | uncounted running answer => exact .inl ⟨answer, move_stage s⟩
  | passed running w here => exact .inr ⟨move_stage s, by simp [here]⟩
  | refused running w here decision => exact .inl ⟨_, move_stage s⟩

theorem placed (history : List Nat) (i : Nat) : controls.Placed requests history i := by
  induction history generalizing i with
  | nil => exact ⟨by simp [after], by simp [after]⟩
  | cons j history ih =>
    have turn := (ih j).turn
    by_cases same : i = j
    · subst same
      have count : (i :: history).count i = history.count i + 1 := by simp
      rcases turn.own with ⟨answer, answered⟩ | ⟨stage, counted⟩
      · exact ⟨by simp [answered, count], by simp [answered]⟩
      · by_cases first : history.count i = 0
        · simp only [dueStage, dueWindow, first, if_true] at stage counted
          exact ⟨by simp [stage, count], fun _ => ⟨by rw [count, first], counted⟩⟩
        · simp only [dueStage, first, if_false] at stage
          exact ⟨by simp [stage, count], by simp [stage]⟩
    · have others := turn.others same
      have count : (j :: history).count i = history.count i := by simp [Ne.symm same]
      refine ⟨?_, ?_⟩
      · rw [others, count]
        exact (ih i).arrived
      · rw [others, count]
        exact (ih i).pastEdge

variable (controls requests) in
/-- The step of a request from wherever the history left it. -/
theorem turn_after (history : List Nat) (i : Nat) :
    controls.Turn requests (controls.after requests history) i (controls.dueWindow requests history i)
      (dueStage history i) (controls.after requests (i :: history)) := (placed history i).turn

/-- Answers stay. -/
theorem Turn.answered (turn : controls.Turn requests s i due app t) (answered : s.stage j = .answered answer) :
    t.stage j = .answered answer := by
  by_cases same : j = i
  · subst same
    cases turn with
    | idle => exact answered
    | uncounted running => exact absurd answered (running answer)
    | passed running => exact absurd answered (running answer)
    | refused running => exact absurd answered (running answer)
  · rw [turn.others same, answered]

/-- A step adds at most one to one window: its own. -/
theorem Turn.windows (turn : controls.Turn requests s i due app t) (key : String) (w : RateWindow) :
    t.windows key w = s.windows key w ∨
      (controls.keyOf requests i = key ∧ due = some w ∧ t.windows key w = s.windows key w + 1) := by
  cases turn with
  | idle => exact .inl rfl
  | uncounted => exact .inl rfl
  | passed running v here =>
    by_cases same : key = controls.keyOf requests i ∧ w = v
    · obtain ⟨rfl, rfl⟩ := same
      exact .inr ⟨rfl, here, by simp [EdgeState.move, RateWindows.set]⟩
    · exact .inl (by simp [EdgeState.move, RateWindows.set, same])
  | refused running v here =>
    by_cases same : key = controls.keyOf requests i ∧ w = v
    · obtain ⟨rfl, rfl⟩ := same
      exact .inr ⟨rfl, here, by simp [EdgeState.move, RateWindows.set]⟩
    · exact .inl (by simp [EdgeState.move, RateWindows.set, same])

/-- A request that its own step answers 429 was counted beyond the limit. -/
theorem Turn.beyond (turn : controls.Turn requests s i due app t) (awake : ∀ d, s.stage i ≠ .answered (.limitExceeded d))
    (serves : app ≠ .answered (.limitExceeded decision)) (refused : t.stage i = .answered (.limitExceeded decision)) :
    ∃ w, due = some w ∧ controls.limitOf requests i < t.windows (controls.keyOf requests i) w := by
  cases turn with
  | idle => exact absurd refused (awake decision)
  | uncounted running answer other =>
    rw [move_stage] at refused
    cases refused
    exact absurd trivial other
  | passed running w here within => exact absurd ((move_stage s).symm.trans refused) serves
  | refused running w here decision beyond =>
    exact ⟨w, here, by simpa [EdgeState.move, RateWindows.set] using beyond⟩

/-- The table counts no more than the passes. -/
theorem windows_le (history : List Nat) (key : String) (w : RateWindow) :
    (controls.after requests history).windows key w ≤ controls.passes requests key w history := by
  induction history with
  | nil => simp [after]
  | cons i history ih =>
    rw [passes_cons]
    rcases (turn_after controls requests history i).windows key w with same | ⟨mine, due, more⟩
    · omega
    · simp only [mine, due, and_self, if_true]
      omega

/-- The windows that a request can count in. -/
def Reaches (controls : EdgeControls) (requests : Nat → EdgeRequest) (i : Nat) (w : RateWindow) : Prop :=
  controls.edgeWindow requests i = some w ∨ controls.innerWindow requests i = some w

theorem dueWindow_reaches (due : controls.dueWindow requests history i = some w) : controls.Reaches requests i w := by
  unfold dueWindow at due
  split at due
  · exact .inl due
  · split at due
    · exact .inr due
    · cases due

/-- The request is answered 429. -/
def Limited (controls : EdgeControls) (requests : Nat → EdgeRequest) (history : List Nat) (i : Nat) : Prop :=
  ∃ decision, (controls.after requests history).stage i = .answered (.limitExceeded decision)

theorem Limited.later (limited : controls.Limited requests history i) (j : Nat) :
    controls.Limited requests (j :: history) i := by
  obtain ⟨decision, answered⟩ := limited
  exact ⟨decision, (turn_after controls requests history j).answered answered⟩

/-- A request is refused for a window with more passes than the limit. -/
theorem Limited.beyond (limited : controls.Limited requests history i) :
    ∃ w, controls.Reaches requests i w ∧
      controls.limitOf requests i < controls.passes requests (controls.keyOf requests i) w history := by
  induction history with
  | nil =>
    obtain ⟨decision, answered⟩ := limited
    simp [after] at answered
  | cons j history ih =>
    by_cases before : controls.Limited requests history i
    · obtain ⟨w, reaches, beyond⟩ := ih before
      refine ⟨w, reaches, beyond.trans_le ?_⟩
      rw [passes_cons]
      exact Nat.le_add_right _ _
    · obtain ⟨decision, answered⟩ := limited
      have turn := turn_after controls requests history j
      by_cases same : i = j
      · subst same
        have serves : dueStage history i ≠ .answered (.limitExceeded decision) := by
          unfold dueStage
          split <;> simp
        obtain ⟨w, due, beyond⟩ := turn.beyond (fun d refused => before ⟨d, refused⟩) serves answered
        exact ⟨w, dueWindow_reaches due, beyond.trans_le (windows_le _ _ _)⟩
      · rw [turn.others same] at answered
        exact absurd ⟨decision, answered⟩ before

section
variable {period : Set RateWindow} {key : String} {limit : Nat}

/-- No request of the key comes into a period, or leaves it, between its two limiters. -/
def Closed (controls : EdgeControls) (requests : Nat → EdgeRequest) (key : String) (period : Set RateWindow) : Prop :=
  ∀ i, controls.keyOf requests i = key → ∀ v w, controls.edgeWindow requests i = some v →
    controls.innerWindow requests i = some w → (v ∈ period ↔ w ∈ period)

/-- No request of the key that reaches the edge limiter in the period is answered 429. -/
def NoneLimited (controls : EdgeControls) (requests : Nat → EdgeRequest) (key : String) (period : Set RateWindow)
    (history : List Nat) : Prop :=
  ∀ i w, controls.keyOf requests i = key → w ∈ period → controls.edgeWindow requests i = some w →
    ¬controls.Limited requests history i

/-- As long as nobody is refused, every pass is counted and every request stays in the stack. -/
structure Counted (controls : EdgeControls) (requests : Nat → EdgeRequest) (key : String) (period : Set RateWindow)
    (limit : Nat) (history : List Nat) : Prop where
  counted : ∀ w ∈ period, controls.passes requests key w history ≤ (controls.after requests history).windows key w
  within : ∀ w ∈ period, (controls.after requests history).windows key w ≤ limit
  pastEdge : ∀ i w, controls.keyOf requests i = key → w ∈ period → controls.edgeWindow requests i = some w →
    history.count i = 1 → (controls.after requests history).stage i = .pastEdge

/-- The step that a request takes in the period is one that a limiter lets pass. -/
theorem Counted.passed (before : controls.Counted requests key period limit history)
    (closed : controls.Closed requests key period) (small : limit < maxInteger)
    (limits : ∀ i, controls.keyOf requests i = key → controls.limitOf requests i = limit)
    (none : controls.NoneLimited requests key period (i :: history)) (mine : controls.keyOf requests i = key)
    (inside : w ∈ period) (due : controls.dueWindow requests history i = some w) :
    (controls.after requests (i :: history)).stage i = dueStage history i ∧
      (controls.after requests (i :: history)).windows key w =
        (controls.after requests history).windows key w + 1 ∧
      (controls.after requests history).windows key w + 1 ≤ limit := by
  have entered : ∃ v ∈ period, controls.edgeWindow requests i = some v ∧
      ∀ answer, (controls.after requests history).stage i ≠ .answered answer := by
    unfold dueWindow at due
    split at due
    · next first =>
      exact ⟨w, inside, due, by simp [(placed history i).arrived.mpr first]⟩
    · split at due
      · next second =>
        obtain ⟨v, edge, -⟩ := Option.bind_eq_some_iff.mp due
        have entry := (closed i mine v w edge due).mpr inside
        exact ⟨v, entry, edge, by simp [before.pastEdge i v mine entry edge second]⟩
      · cases due
  obtain ⟨v, entry, edge, running⟩ := entered
  have unrefused := fun decision answered => none i v mine entry edge ⟨decision, answered⟩
  have turn := turn_after controls requests history i
  generalize controls.after requests (i :: history) = t at turn unrefused
  cases turn with
  | idle answer answered => exact absurd answered (running answer)
  | uncounted _ answer other full =>
    have full := full w due
    have within := before.within w inside
    rw [mine] at full
    omega
  | passed _ u here within =>
    cases here.symm.trans due
    rw [mine, limits i mine] at within
    exact ⟨move_stage _, by simp [EdgeState.move, RateWindows.set, mine], within⟩
  | refused _ u here decision => exact absurd (move_stage _) (unrefused decision)

theorem counted (closed : controls.Closed requests key period) (small : limit < maxInteger)
    (limits : ∀ i, controls.keyOf requests i = key → controls.limitOf requests i = limit)
    (none : controls.NoneLimited requests key period history) :
    controls.Counted requests key period limit history := by
  induction history with
  | nil => exact ⟨by simp [passes, edgePasses, innerPasses], by simp [after], by simp⟩
  | cons i history ih =>
    have before := ih fun j w mine inside edge limited => none j w mine inside edge (limited.later i)
    have turn := turn_after controls requests history i
    refine ⟨fun w inside => ?_, fun w inside => ?_, fun j w mine inside edge second => ?_⟩
    · have earlier := before.counted w inside
      rw [passes_cons]
      split
      · next here =>
        obtain ⟨-, more, -⟩ := before.passed closed small limits none here.1 inside here.2
        omega
      · rcases turn.windows key w with same | ⟨-, -, more⟩ <;> omega
    · rcases turn.windows key w with same | ⟨mine, due, -⟩
      · exact same ▸ before.within w inside
      · obtain ⟨-, more, within⟩ := before.passed closed small limits none mine inside due
        exact more ▸ within
    · by_cases same : j = i
      · subst same
        have first : history.count j = 0 := by simpa using second
        have due : controls.dueWindow requests history j = some w := by simp [dueWindow, first, edge]
        obtain ⟨stage, -, -⟩ := before.passed closed small limits none mine inside due
        simpa [dueStage, first] using stage
      · rw [turn.others same]
        apply before.pastEdge j w mine inside edge
        rwa [List.count_cons_of_ne (Ne.symm same)] at second

/-- Nobody is refused exactly when no window has more passes than the limit. -/
theorem noneLimited_iff (closed : controls.Closed requests key period) (small : limit < maxInteger)
    (limits : ∀ i, controls.keyOf requests i = key → controls.limitOf requests i = limit) :
    controls.NoneLimited requests key period history ↔
      ∀ w ∈ period, controls.passes requests key w history ≤ limit := by
  constructor
  · intro none w inside
    have counted := counted closed small limits none
    exact (counted.counted w inside).trans (counted.within w inside)
  · intro few i v mine inside edge limited
    obtain ⟨w, reaches, beyond⟩ := limited.beyond
    rw [mine, limits i mine] at beyond
    rcases reaches with edge' | inner
    · cases edge.symm.trans edge'
      exact absurd (few v inside) (not_le.mpr beyond)
    · exact absurd (few w ((closed i mine v w edge inner).mp inside)) (not_le.mpr beyond)

end

/-- A window in which every request of the key goes through both limiters has two passes a request. -/
theorem passes_of_done (done : ∀ i ∈ history, controls.keyOf requests i = key →
      (controls.edgeWindow requests i = some w ↔
        2 ≤ history.count i ∧ controls.innerWindow requests i = some w)) :
    controls.passes requests key w history = 2 * controls.edgePasses requests key w history := by
  have same : controls.innerPasses requests key w history = controls.edgePasses requests key w history := by
    apply List.countP_congr
    intro i member
    have here := done i (List.mem_dedup.mp member)
    simp only [decide_eq_true_eq]
    exact and_congr_right fun mine => (here mine).symm
  rw [passes, same, two_mul]

/-- What the limit promises a client: no more requests than the limit in any window of a period,
and none of them is answered 429. -/
def KeepsPromise (controls : EdgeControls) (requests : Nat → EdgeRequest) (client : HttpScope)
    (period : Set RateWindow) (history : List Nat) : Prop :=
  (∀ w ∈ period, controls.edgePasses requests (scopeKey controls.sha256 client) w history ≤
    controls.limits.limit client.bucket) →
  controls.NoneLimited requests (scopeKey controls.sha256 client) period history

/-- The promise is kept exactly when the limit covers the passes of both limiters together. -/
theorem keepsPromise_iff (controls : EdgeControls) (requests : Nat → EdgeRequest) (client : HttpScope)
    (period : Set RateWindow) (history : List Nat)
    (closed : controls.Closed requests (scopeKey controls.sha256 client) period) :
    controls.KeepsPromise requests client period history ↔
      ((∀ w ∈ period, controls.edgePasses requests (scopeKey controls.sha256 client) w history ≤
          controls.limits.limit client.bucket) →
        ∀ w ∈ period, controls.edgePasses requests (scopeKey controls.sha256 client) w history +
            controls.innerPasses requests (scopeKey controls.sha256 client) w history ≤
          controls.limits.limit client.bucket) := by
  have small : controls.limits.limit client.bucket < maxInteger :=
    (controls.limits.bounded client.bucket).trans_lt (by decide)
  have limits : ∀ i, controls.keyOf requests i = scopeKey controls.sha256 client →
      controls.limitOf requests i = controls.limits.limit client.bucket :=
    fun i mine => congrArg controls.limits.limit (scopeKey_bucket mine)
  unfold KeepsPromise
  rw [noneLimited_iff closed small limits]
  rfl

end EdgeControls

def sampleScope : HttpScope := ⟨"GET", [], some "203.0.113.9"⟩

/-- The same read again and again, each within the first minute. -/
def sampleReads : Nat → EdgeRequest := fun _ => ⟨sampleScope, some ⟨1, 2⟩, some ⟨3, 4⟩⟩

/-- Limits of `reads` reads a minute and as many writes. -/
def sampleControls (reads : Nat) (positive : 1 ≤ reads) (bounded : reads ≤ 100000) : EdgeControls :=
  ⟨checksum, ⟨fun _ => reads, fun _ => positive, fun _ => bounded⟩, 1024⟩

theorem twoReads_kept : (sampleControls 2 (by decide) (by decide)).KeepsPromise sampleReads sampleScope
    Set.univ [0, 0] := by
  refine (EdgeControls.keepsPromise_iff _ sampleReads sampleScope Set.univ [0, 0] ?_).mpr fun _ w _ => ?_
  · exact fun _ _ _ _ _ _ => Iff.rfl
  · exact Nat.add_le_add (List.countP_le_length (l := [0, 0].dedup)) (List.countP_le_length (l := [0, 0].dedup))

/-- With a limit of one read a minute, the first read of a client is answered 429. -/
theorem oneRead_refused : ¬(sampleControls 1 (by decide) (by decide)).KeepsPromise sampleReads sampleScope
    Set.univ [0, 0] := by
  intro kept
  have none := kept fun w _ => List.countP_le_length (l := [0, 0].dedup)
  have limited : (sampleControls 1 (by decide) (by decide)).Limited sampleReads [0, 0] 0 :=
    ⟨⟨false, 1, 0, 59⟩, by decide +kernel⟩
  exact none 0 0 rfl trivial (by decide +kernel) limited

end BallotProof
