import BallotProof.Requests
import BallotProof.SchedulerWindow

/-! What a blocked `reserve` promises: the reported time is when the same request is granted, as
long as the stored reservations of the source carry one offset. -/
namespace BallotProof
open Python

/-- More than the last `length - i` entries of a sorted list are above a bound exactly when its
entry at `i` is. -/
theorem countP_above {α : Type u} [LinearOrder α] {l : List α} {i : Nat} {middle : α} (sorted : l.Pairwise (· ≤ ·))
    (inside : l[i]? = some middle) (bound : α) :
    l.length - i ≤ l.countP (bound < ·) ↔ bound < middle := by
  obtain ⟨small, rfl⟩ := List.getElem?_eq_some_iff.mp inside
  have parts : l = l.take i ++ l[i] :: l.drop (i + 1) := by
    rw [← List.drop_eq_getElem_cons, List.take_append_drop]
  have ordered := sorted
  rw [parts, List.pairwise_append] at ordered
  obtain ⟨-, back, across⟩ := ordered
  have size : (l.drop (i + 1)).length = l.length - (i + 1) := List.length_drop
  constructor
  · intro many
    by_contra low
    have none : (l.take i ++ [l[i]]).countP (bound < ·) = 0 := by
      rw [List.countP_eq_zero]
      intro value member
      rcases List.mem_append.mp member with front | same
      · have below := across value front l[i] List.mem_cons_self
        simpa using below.trans (not_lt.mp low)
      · simpa [List.mem_singleton.mp same] using low
    have few : (l.drop (i + 1)).countP (bound < ·) ≤ l.length - (i + 1) := size ▸ List.countP_le_length
    have total : l.countP (bound < ·) =
        (l.take i ++ [l[i]]).countP (bound < ·) + (l.drop (i + 1)).countP (bound < ·) := by
      rw [← List.countP_append, List.append_assoc]
      exact congrArg _ parts
    omega
  · intro high
    have all : (l[i] :: l.drop (i + 1)).countP (bound < ·) = (l[i] :: l.drop (i + 1)).length := by
      rw [List.countP_eq_length]
      intro value member
      rcases List.mem_cons.mp member with same | later
      · simpa [same] using high
      · simpa using high.trans_le (List.rel_of_pairwise_cons back later)
    have total : l.countP (bound < ·) =
        (l.take i).countP (bound < ·) + (l[i] :: l.drop (i + 1)).countP (bound < ·) := by
      rw [← List.countP_append]
      exact congrArg _ parts
    rw [List.length_cons] at all
    omega

section
variable (validateSourceRequest : SourcePolicy → String → String → Option RequestPolicyViolation)

/-- The arguments of a `reserve` call, with the id that it would give a reservation. -/
structure ReserveArguments where
  snapshot : SourcePolicySnapshot
  request : SourceReservationRequest
  receipts : List ProvenanceReceipt
  now : Datetime
  reservationId : String

/-- `SourceSchedulerStore.reserve` -/
def reserve (rows : List SourceRequestReservation) (call : ReserveArguments) :
    Result (ReservationDecision × List SourceRequestReservation) := do
  match ← reserveChecks validateSourceRequest call.snapshot call.request call.receipts call.now with
  | .inl decision => return (decision, rows)
  | .inr reserving => reserveTransaction .sqlite rows reserving call.reservationId

end

/-- The datetime is in UTC. -/
def Utc (t : Datetime) : Prop := t.offset = 0

theorem utc_ext {a b : Datetime} (left : Utc a) (right : Utc b) (same : a.instant = b.instant) : a = b :=
  Datetime.ext same (left.trans right.symm)

theorem not_before_iff {a b : Datetime} :
    (!SchedulerStore.sqlite.before b a) = true ↔ a.isoformat ≤ b.isoformat := by
  simp only [SchedulerStore.before, Bool.not_eq_true', decide_eq_false_iff_not, not_lt]

section
variable {rows : List SourceRequestReservation} {sourceId : String} {windowStart now : Datetime}

/-- The instants of the window, in order. -/
def windowInstants (rows : List SourceRequestReservation) (sourceId : String) (windowStart now : Datetime) :
    List Int := (rateWindow .sqlite rows sourceId windowStart now).map (·.reservedAt.instant)

theorem windowInstants_sorted (utc : ∀ row ∈ rows, row.sourceId = sourceId → Utc row.reservedAt) :
    (windowInstants rows sourceId windowStart now).Pairwise (· ≤ ·) := by
  have total : Std.Total fun a b : SourceRequestReservation =>
      (!SchedulerStore.sqlite.before b.reservedAt a.reservedAt) = true := by
    refine ⟨fun a b => ?_⟩
    rw [not_before_iff, not_before_iff]
    exact le_total _ _
  have transitive : IsTrans SourceRequestReservation fun a b =>
      (!SchedulerStore.sqlite.before b.reservedAt a.reservedAt) = true := by
    refine ⟨fun a b c => ?_⟩
    rw [not_before_iff, not_before_iff, not_before_iff]
    exact le_trans
  refine List.pairwise_map.mpr ?_
  refine (List.pairwise_insertionSort _ _).imp_of_mem fun {a b} left right ordered => ?_
  obtain ⟨leftRow, leftSource, -⟩ := mem_rateWindow left
  obtain ⟨rightRow, rightSource, -⟩ := mem_rateWindow right
  have earlier := before_utc .sqlite (utc b rightRow rightSource) (utc a leftRow leftSource)
  by_contra later
  rw [earlier.mpr (not_le.mp later)] at ordered
  cases ordered

/-- How many reservations of the window are after an instant of its minute. -/
theorem windowInstants_above (utc : ∀ row ∈ rows, row.sourceId = sourceId → Utc row.reservedAt)
    (nowUtc : Utc now) (started : now.add (-minute) = .ok windowStart)
    (past : ∀ row ∈ rows, row.sourceId = sourceId → row.reservedAt.instant ≤ now.instant)
    (bound : Int) (recent : now.instant - minute ≤ bound) :
    (windowInstants rows sourceId windowStart now).countP (bound < ·) =
      rows.countP fun row => row.sourceId = sourceId ∧ bound < row.reservedAt.instant := by
  obtain ⟨start, startUtc⟩ := Datetime.add_ok started
  have counted : (windowInstants rows sourceId windowStart now).countP (bound < ·) =
      (rateWindow .sqlite rows sourceId windowStart now).countP fun row => bound < row.reservedAt.instant := by
    rw [windowInstants, List.countP_map]
    rfl
  rw [counted, rateWindow, (List.perm_insertionSort _ _).countP_eq, List.countP_filter]
  refine List.countP_congr fun row member => ?_
  simp only [Bool.and_eq_true, decide_eq_true_eq]
  constructor
  · rintro ⟨above, source, -, -⟩
    exact ⟨source, above⟩
  · rintro ⟨source, above⟩
    have rowUtc := utc row member source
    have early := past row member source
    refine ⟨above, source, (before_utc .sqlite (startUtc.trans nowUtc) rowUtc).mpr (by omega), fun later => ?_⟩
    have later := (before_utc .sqlite nowUtc rowUtc).mp later
    omega

theorem windowInstants_recent (utc : ∀ row ∈ rows, row.sourceId = sourceId → Utc row.reservedAt)
    (nowUtc : Utc now) (started : now.add (-minute) = .ok windowStart) :
    ∀ instant ∈ windowInstants rows sourceId windowStart now, now.instant - minute < instant := by
  intro instant member
  obtain ⟨row, inside, rfl⟩ := List.mem_map.mp member
  obtain ⟨among, source, after, -⟩ := mem_rateWindow inside
  obtain ⟨start, startUtc⟩ := Datetime.add_ok started
  have := (before_utc .sqlite (startUtc.trans nowUtc) (utc row among source)).mp after
  omega

/-- The window is as long as the source has reservations in the minute up to the time. -/
theorem rateWindow_length (utc : ∀ row ∈ rows, row.sourceId = sourceId → Utc row.reservedAt)
    (nowUtc : Utc now) (started : now.add (-minute) = .ok windowStart)
    (past : ∀ row ∈ rows, row.sourceId = sourceId → row.reservedAt.instant ≤ now.instant) :
    (rateWindow .sqlite rows sourceId windowStart now).length = rows.countP fun row =>
      row.sourceId = sourceId ∧ now.instant - minute < row.reservedAt.instant := by
  rw [← windowInstants_above utc nowUtc started past _ le_rfl, List.countP_eq_length.mpr, windowInstants,
    List.length_map]
  intro instant member
  simpa using windowInstants_recent utc nowUtc started instant member

end

/-- What the limit of a window comes from. -/
theorem rateLimitUntil_ok : rateLimitUntil window limit = .ok rate ↔
    (window.length < limit ∧ rate = none) ∨
      limit ≤ window.length ∧ ∃ row time, window[window.length - limit]? = some row ∧
        row.reservedAt.add minute = .ok time ∧ rate = some time := by
  unfold rateLimitUntil
  by_cases full : limit ≤ window.length
  · rw [if_pos full]
    cases found : window[window.length - limit]? with
    | none => simp [full]
    | some row =>
      simp only [bind_eq_ok]
      simp [full, pure, Except.pure, eq_comm]
  · rw [if_neg full]
    simp [full, not_le.mp full, eq_comm]

section
variable {rows : List SourceRequestReservation} {sourceId : String} {now later windowStart laterStart : Datetime}

/-- Without new reservations the limit of a window lapses at its time and holds until then. -/
theorem rateLimitUntil_later (utc : ∀ row ∈ rows, row.sourceId = sourceId → Utc row.reservedAt)
    (nowUtc : Utc now) (laterUtc : Utc later) (order : now.instant ≤ later.instant)
    (past : ∀ row ∈ rows, row.sourceId = sourceId → row.reservedAt.instant ≤ now.instant)
    (started : now.add (-minute) = .ok windowStart) (restarted : later.add (-minute) = .ok laterStart)
    (limited : rateLimitUntil (rateWindow .sqlite rows sourceId windowStart now) limit = .ok rate) :
    rateLimitUntil (rateWindow .sqlite rows sourceId laterStart later) limit =
      .ok (rate.filter fun time => later.instant < time.instant) := by
  have laterPast : ∀ row ∈ rows, row.sourceId = sourceId → row.reservedAt.instant ≤ later.instant :=
    fun row member source => (past row member source).trans order
  have length := rateWindow_length utc laterUtc restarted laterPast
  have above (bound : Int) := windowInstants_above utc nowUtc started past bound
  have aboveLater (bound : Int) := windowInstants_above utc laterUtc restarted laterPast bound
  have size : (windowInstants rows sourceId windowStart now).length =
      (rateWindow .sqlite rows sourceId windowStart now).length := List.length_map ..
  have sizeLater : (windowInstants rows sourceId laterStart later).length =
      (rateWindow .sqlite rows sourceId laterStart later).length := List.length_map ..
  have shrinks := above (later.instant - minute) (by omega)
  rw [← length] at shrinks
  rw [rateLimitUntil_ok]
  rcases rateLimitUntil_ok.mp limited with ⟨room, rfl⟩ | ⟨full, row, time, found, added, rfl⟩
  · have fewer : (windowInstants rows sourceId windowStart now).countP (later.instant - minute < ·) ≤
        (windowInstants rows sourceId windowStart now).length := List.countP_le_length
    exact .inl ⟨by omega, rfl⟩
  · have entry : (windowInstants rows sourceId windowStart now)[(windowInstants rows sourceId windowStart
        now).length - limit]? = some row.reservedAt.instant := by
      rw [size, windowInstants, List.getElem?_map, found]
      rfl
    have middle (bound : Int) := countP_above (windowInstants_sorted utc) entry bound
    obtain ⟨until_, timeUtc⟩ := Datetime.add_ok added
    have inside := (List.getElem?_eq_some_iff.mp entry).1
    have lapse := middle (later.instant - minute)
    rw [shrinks] at lapse
    by_cases held : later.instant < time.instant
    · have still : limit ≤ (rateWindow .sqlite rows sourceId laterStart later).length := by
        have := lapse.mpr (by omega)
        omega
      right
      refine ⟨still, ?_⟩
      obtain ⟨other, again⟩ : ∃ other, (rateWindow .sqlite rows sourceId laterStart later)[
          (rateWindow .sqlite rows sourceId laterStart later).length - limit]? = some other :=
        ⟨_, List.getElem?_eq_getElem (by omega)⟩
      have entryLater : (windowInstants rows sourceId laterStart later)[(windowInstants rows sourceId
          laterStart later).length - limit]? = some other.reservedAt.instant := by
        rw [sizeLater, windowInstants, List.getElem?_map, again]
        rfl
      -- both entries have the same instants below them, so they are one instant
      have same (bound : Int) (recent : later.instant - minute ≤ bound) :
          bound < other.reservedAt.instant ↔ bound < row.reservedAt.instant := by
        rw [← middle bound, ← countP_above (windowInstants_sorted utc) entryLater bound,
          above bound (by omega), aboveLater bound recent]
        omega
      have member := List.mem_of_getElem? again
      have recentLater := windowInstants_recent utc laterUtc restarted _ (List.mem_map_of_mem member)
      have low := same row.reservedAt.instant (by omega)
      have high := same other.reservedAt.instant (by omega)
      obtain ⟨otherRow, otherSource, -⟩ := mem_rateWindow member
      obtain ⟨rowRow, rowSource, -⟩ := mem_rateWindow (List.mem_of_getElem? found)
      have equal : other.reservedAt = row.reservedAt :=
        utc_ext (utc other otherRow otherSource) (utc row rowRow rowSource) (by omega)
      exact ⟨other, time, again, equal ▸ added, by simp [Option.filter, held]⟩
    · left
      refine ⟨?_, by simp [Option.filter, held]⟩
      by_contra more
      have := lapse.mp (by omega)
      omega

end

/-- Receipts that are all in the past are the same receipts later. -/
theorem latestReceipt_later {receipts : List ProvenanceReceipt} {policy : SourcePolicy} {now later : Datetime}
    (past : ∀ receipt ∈ receipts, receipt.sourceId = policy.sourceId →
      receipt.retrievedAt.instant ≤ now.instant) (order : now.instant ≤ later.instant) :
    latestReceipt receipts policy request later = latestReceipt receipts policy request now := by
  unfold latestReceipt
  refine congrArg (fun matching => (List.insertionSort _ matching).getLast?) ?_
  refine List.filter_congr fun receipt member => decide_eq_decide.mpr ?_
  constructor
  · rintro ⟨source, key, url, -⟩
    exact ⟨source, key, url, past receipt member source⟩
  · rintro ⟨source, key, url, early⟩
    exact ⟨source, key, url, early.trans order⟩

theorem reserveChecks_later {snapshot : SourcePolicySnapshot} {receipts : List ProvenanceReceipt}
    {now later : Datetime}
    (past : ∀ receipt ∈ receipts, receipt.sourceId = snapshot.policy.sourceId →
      receipt.retrievedAt.instant ≤ now.instant) (order : now.instant ≤ later.instant)
    (h : reserveChecks validate snapshot request receipts now = .ok (.inr call)) :
    reserveChecks validate snapshot request receipts later = .ok (.inr { call with now := later }) := by
  simp only [reserveChecks] at h ⊢
  rw [latestReceipt_later past order]
  split at h
  · cases h
  next matching =>
    rw [if_neg matching]
    split at h
    · cases h
    next approved =>
      rw [if_neg approved]
      split at h
      · cases h
      next passes =>
        split at h
        · cases h
        next attempts =>
          rw [if_neg attempts]
          split at h
          next first =>
            rw [if_pos first]
            cases h
            rfl
          next retry =>
            rw [if_neg retry]
            split at h
            · cases h
            next latest found =>
              split at h
              next retryable =>
                rw [if_pos retryable]
                obtain ⟨backoff, delayed, h⟩ := bind_ok h
                obtain ⟨backoffUntil, added, h⟩ := bind_ok h
                rw [delayed, ok_bind, added, ok_bind]
                cases h
                rfl
              next refused => cases h

/-- `max` is not below any of the times. -/
theorem latestOf_max {times : List Datetime} (h : latestOf times = some latest) :
    ∀ time ∈ times, time.instant ≤ latest.instant := by
  have kept : ∀ (rest : List Datetime) (best : Datetime), latestOf (best :: rest) = some latest →
      best.instant ≤ latest.instant ∧ ∀ time ∈ rest, time.instant ≤ latest.instant := by
    intro rest
    induction rest with
    | nil =>
      intro best h
      cases h
      exact ⟨le_rfl, by simp⟩
    | cons next rest ih =>
      intro best h
      rw [latestOf_pair] at h
      split at h
      next less =>
        obtain ⟨low, others⟩ := ih next h
        refine ⟨less.le.trans low, fun time member => ?_⟩
        rcases List.mem_cons.mp member with rfl | later
        · exact low
        · exact others time later
      next more =>
        obtain ⟨low, others⟩ := ih best h
        refine ⟨low, fun time member => ?_⟩
        rcases List.mem_cons.mp member with rfl | later
        · exact (not_lt.mp more).trans low
        · exact others time later
  cases times with
  | nil => cases h
  | cons first rest =>
    obtain ⟨low, others⟩ := kept rest first h
    intro time member
    rcases List.mem_cons.mp member with rfl | later
    · exact low
    · exact others time later

theorem mem_blockers {call : ReserveCall} : time ∈ blockers call rate ↔
    (call.backoffUntil = some time ∨ rate = some time) ∧ call.now.instant < time.instant := by
  simp only [blockers, List.mem_filterMap, List.mem_cons, List.not_mem_nil, or_false,
    Option.filter_eq_some_iff, decide_eq_true_eq]
  constructor
  · rintro ⟨limit, rfl | rfl, same, after⟩
    · exact ⟨.inl same, after⟩
    · exact ⟨.inr same, after⟩
  · rintro ⟨same | same, after⟩
    · exact ⟨_, .inl rfl, same, after⟩
    · exact ⟨_, .inr rfl, same, after⟩

/-- No reservation of the source and none of its receipts is after the time. -/
structure NothingAfter (rows : List SourceRequestReservation) (receipts : List ProvenanceReceipt)
    (sourceId : String) (now : Datetime) : Prop where
  reservations : ∀ row ∈ rows, row.sourceId = sourceId → row.reservedAt.instant ≤ now.instant
  receipts : ∀ receipt ∈ receipts, receipt.sourceId = sourceId → receipt.retrievedAt.instant ≤ now.instant

/-- What a transaction that names a time has found. -/
theorem reserveTransaction_blocked (h : reserveTransaction store rows call reservationId = .ok (decision, after))
    (named : decision.nextAllowedAt = some nextAllowed) :
    (¬∃ row ∈ rows, row.sourceId = call.snapshot.policy.sourceId ∧ row.requestKey = call.request.requestKey ∧
      row.attempt = call.request.attempt) ∧
    ∃ windowStart rate, call.now.add (-minute) = .ok windowStart ∧
      rateLimitUntil (rateWindow store rows call.snapshot.policy.sourceId windowStart call.now)
        call.snapshot.policy.requestsPerMinute = .ok rate ∧
      latestOf (blockers call rate) = some nextAllowed := by
  obtain ⟨windowStart, started, h⟩ := bind_ok h
  split at h
  · cases h
    cases named
  next unique =>
    obtain ⟨rate, limited, h⟩ := bind_ok h
    split at h
    next blocked =>
      cases h
      cases named
      exact ⟨unique, windowStart, rate, started, limited, blocked⟩
    · unfold insertReservation at h
      split at h
      · obtain ⟨refused, conflict, same⟩ := map_ok h
        cases same
        cases store <;> cases conflict
        cases named
      · cases h
        cases named

/-- A later time of the same minute or after it has a window of its own. -/
theorem add_later {now later : Datetime} (nowUtc : Utc now) (laterUtc : Utc later)
    (order : now.instant ≤ later.instant) (started : now.add (-minute) = .ok windowStart) :
    ∃ laterStart, later.add (-minute) = .ok laterStart := by
  unfold Datetime.add at started ⊢
  split at started
  next range =>
    have low := range.1
    have high := later.local_range.2
    have forward : (0 : Int) ≤ minute := by decide
    rw [nowUtc] at low
    refine ⟨_, dif_pos ⟨?_, by omega⟩⟩
    rw [laterUtc]
    omega
  · cases started

section
variable (validateSourceRequest : SourcePolicy → String → String → Option RequestPolicyViolation)

/-- A retry of the call is blocked before the time, and granted at it under a fresh id. -/
structure RetriedAt (rows : List SourceRequestReservation) (call : ReserveArguments) (next : Datetime) : Prop where
  blocked : ∀ later reservationId, Utc later → call.now.instant ≤ later.instant →
    later.instant < next.instant → ∃ decision,
      reserve validateSourceRequest rows { call with now := later, reservationId } = .ok (decision, rows) ∧
      decision.allowed = false
  granted : ∀ later reservationId, Utc later → later.instant = next.instant →
    reservationId ∉ rows.map (·.reservationId) → ∃ decision after,
      reserve validateSourceRequest rows { call with now := later, reservationId } = .ok (decision, after) ∧
      decision.allowed = true

/-- A blocked call for the source reports exactly when its retry is granted. -/
def NextAllowedExact (rows : List SourceRequestReservation) (sourceId : String) : Prop :=
  ∀ call : ReserveArguments, call.snapshot.policy.sourceId = sourceId → Utc call.now →
    NothingAfter rows call.receipts sourceId call.now → ∀ decision after next,
      reserve validateSourceRequest rows call = .ok (decision, after) →
      decision.reason = some .backoff ∨ decision.reason = some .rateLimit →
      decision.nextAllowedAt = some next → RetriedAt validateSourceRequest rows call next

end

variable {validate : SourcePolicy → String → String → Option RequestPolicyViolation}

/-- With the reservations of the source in UTC a retry is blocked exactly before the reported time. -/
theorem nextAllowedExact_of_utc (utc : ∀ row ∈ rows, row.sourceId = sourceId → Utc row.reservedAt) :
    NextAllowedExact validate rows sourceId := by
  rintro call rfl nowUtc nothing decision after next answered _ named
  obtain ⟨checked, checks, answered⟩ := bind_ok answered
  cases checked with
  | inl refused =>
    cases answered
    rw [reserveChecks_refused checks] at named
    cases named
  | inr reserving =>
    obtain ⟨now, snapshot, request⟩ := reserveChecks_call checks
    obtain ⟨unique, windowStart, rate, started, limited, latest⟩ := reserveTransaction_blocked answered named
    rw [now] at started limited
    rw [snapshot] at limited
    have after := latestOf_blockers latest
    rw [now] at after
    have member := mem_blockers.mp (mem_of_latestOf latest)
    have most := latestOf_max latest
    -- the transaction of a retry, up to the blockers
    have retry (later : Datetime) (reservationId : String) (laterUtc : Utc later)
        (order : call.now.instant ≤ later.instant) (blocked : Option Datetime)
        (latest : latestOf (blockers { reserving with now := later } (rate.filter fun time =>
          later.instant < time.instant)) = blocked) :
        reserve validate rows { call with now := later, reservationId } =
          blocked.elim (insertReservation .sqlite rows
            (ReserveCall.reservation { reserving with now := later } reservationId))
            fun nextAllowed => .ok (blockedUntil { reserving with now := later } nextAllowed, rows) := by
      obtain ⟨laterStart, restarted⟩ := add_later nowUtc laterUtc order started
      have still := rateLimitUntil_later utc nowUtc laterUtc order
        nothing.reservations started restarted limited
      have again := reserveChecks_later nothing.receipts order checks
      rw [← snapshot] at still
      rw [reserve]
      dsimp only
      rw [again, ok_bind]
      dsimp only [reserveTransaction]
      rw [restarted, ok_bind, if_neg unique, still, ok_bind]
      rw [latest]
      cases blocked <;> rfl
    constructor
    · intro later reservationId laterUtc order early
      cases blocked : latestOf (blockers { reserving with now := later } (rate.filter fun time =>
          later.instant < time.instant)) with
      | some nextAllowed =>
        rw [retry later reservationId laterUtc order _ blocked]
        exact ⟨_, rfl, rfl⟩
      | none =>
        have listed : next ∈ blockers { reserving with now := later }
            (rate.filter fun time => later.instant < time.instant) := by
          refine mem_blockers.mpr ⟨member.1.imp id fun same => ?_, early⟩
          rw [same]
          simp [Option.filter, early]
        exact absurd blocked (latestOf_mem listed)
    · intro later reservationId laterUtc exact_ fresh
      cases blocked : latestOf (blockers { reserving with now := later } (rate.filter fun time =>
          later.instant < time.instant)) with
      | some nextAllowed =>
        obtain ⟨limit, beyond⟩ := mem_blockers.mp (mem_of_latestOf blocked)
        have beyond : later.instant < nextAllowed.instant := beyond
        have listed : nextAllowed ∈ blockers reserving rate := by
          refine mem_blockers.mpr ⟨limit.imp id fun kept => (Option.filter_eq_some_iff.mp kept).1, ?_⟩
          rw [now]
          omega
        have := most nextAllowed listed
        omega
      | none =>
        have free : (ReserveCall.reservation { reserving with now := later } reservationId).reservationId ∉
            rows.map (·.reservationId) := fresh
        rw [retry later reservationId laterUtc (by omega) _ blocked, Option.elim_none, insertReservation,
          if_neg free]
        exact ⟨_, _, rfl, rfl⟩

/-- A granted call stores its own time. -/
theorem reserve_utc {call : ReserveArguments}
    (utc : ∀ row ∈ rows, row.sourceId = sourceId → Utc row.reservedAt)
    (nowUtc : call.snapshot.policy.sourceId = sourceId → Utc call.now)
    (h : reserve validate rows call = .ok (decision, after)) :
    ∀ row ∈ after, row.sourceId = sourceId → Utc row.reservedAt := by
  obtain ⟨checked, checks, h⟩ := bind_ok h
  cases checked with
  | inl refused =>
    cases h
    exact utc
  | inr reserving =>
    obtain ⟨now, snapshot, -⟩ := reserveChecks_call checks
    rcases reserveTransaction_decision h with ⟨rfl, -⟩ | ⟨rfl, -⟩
    · exact utc
    · intro row member source
      rcases List.mem_append.mp member with old | new
      · exact utc row old source
      · rw [List.mem_singleton.mp new] at source ⊢
        have stored : (reserving.reservation call.reservationId).reservedAt = call.now := now
        have reserved : reserving.snapshot.policy.sourceId = sourceId := source
        rw [stored]
        exact nowUtc (snapshot ▸ reserved)

/-- After any calls, those for the source all evaluated in UTC, a blocked call for the source
reports exactly when its retry is granted. -/
theorem run_nextAllowedExact (validate : SourcePolicy → String → String → Option RequestPolicyViolation)
    (calls : List ReserveArguments) (sourceId : String)
    (utc : ∀ call ∈ calls, call.snapshot.policy.sourceId = sourceId → Utc call.now) :
    NextAllowedExact validate (Requests.run (reserve validate) [] calls) sourceId := by
  apply nextAllowedExact_of_utc
  exact Requests.run_keeps (fun rows call decision after held nowUtc served => reserve_utc held nowUtc served)
    (by simp) (Requests.Meets.of_forall fun call member _ => utc call member)

def tenSeconds : Datetime := ⟨1767268810000000, 0, Datetime.utc_offset, by decide⟩
def fortySeconds : Datetime := ⟨1767268840000000, 0, Datetime.utc_offset, by decide⟩

/-- 12:00:30, five hours east of UTC. -/
def eastern : Datetime := ⟨1767250830000000, 18000000000, by decide, by decide⟩

def unguarded : SourcePolicy → String → String → Option RequestPolicyViolation := fun _ _ _ => none

def callAt (now : Datetime) (key : String) : ReserveArguments :=
  ⟨sampleSnapshot, sampleRequest key, [], now, key⟩

/-- A call ten seconds after a grant is told to come back a minute after the grant. -/
theorem noonCall_retried : RetriedAt unguarded (Requests.run (reserve unguarded) [] [callAt noon "a"])
    (callAt tenSeconds "c") minuteLater := by
  have exact_ := run_nextAllowedExact unguarded [callAt noon "a"] "iec" (by simp [callAt, Utc, noon])
  have rows : Requests.run (reserve unguarded) [] [callAt noon "a"] =
      [ReserveCall.reservation ⟨noon, sampleSnapshot, sampleRequest "a", none⟩ "a"] := by decide +kernel
  rw [rows] at exact_ ⊢
  have blocked : reserve unguarded [ReserveCall.reservation ⟨noon, sampleSnapshot, sampleRequest "a", none⟩ "a"]
      (callAt tenSeconds "c") = .ok (⟨false, some .rateLimit, some minuteLater, 50000000, none⟩,
        [ReserveCall.reservation ⟨noon, sampleSnapshot, sampleRequest "a", none⟩ "a"]) := by decide +kernel
  exact exact_ (callAt tenSeconds "c") rfl rfl ⟨by decide +kernel, by simp [callAt]⟩ _ _ minuteLater
    blocked (.inr rfl) rfl

/-- A reservation at a time east of UTC, which is in the past but has a later text. -/
def easternCalls : List ReserveArguments := [callAt eastern "b", callAt noon "a"]

def easternRows : List SourceRequestReservation :=
  [ReserveCall.reservation ⟨eastern, sampleSnapshot, sampleRequest "b", none⟩ "b",
    ReserveCall.reservation ⟨noon, sampleSnapshot, sampleRequest "a", none⟩ "a"]

/-- A call ten seconds past noon is told to wait until 12:01:00, but a retry at 12:00:40 is granted. -/
theorem easternCalls_retried :
    ¬NextAllowedExact unguarded (Requests.run (reserve unguarded) [] easternCalls) "iec" := by
  intro exact_
  have rows : Requests.run (reserve unguarded) [] easternCalls = easternRows := by decide +kernel
  rw [rows] at exact_
  have blocked : reserve unguarded easternRows (callAt tenSeconds "c") =
      .ok (⟨false, some .rateLimit, some minuteLater, 50000000, none⟩, easternRows) := by decide +kernel
  have nothing : NothingAfter easternRows [] "iec" tenSeconds := ⟨by decide +kernel, by simp⟩
  have retried := exact_ (callAt tenSeconds "c") rfl rfl nothing _ _ minuteLater blocked (.inr rfl) rfl
  obtain ⟨decision, answered, refused⟩ := retried.blocked fortySeconds "c" rfl (by decide) (by decide)
  have granted : (reserve unguarded easternRows (callAt fortySeconds "c")).map (·.1.allowed) = .ok true := by
    decide +kernel
  have answered : reserve unguarded easternRows (callAt fortySeconds "c") = .ok (decision, easternRows) := answered
  rw [answered] at granted
  have allowed : decision.allowed = true := Except.ok.inj granted
  rw [refused] at allowed
  cases allowed

end BallotProof
