import BallotProof.AuthStore

/-! Concurrent calls of `bootstrap_admin`. The check that no identity exists and the insert
of the identity are transactions of their own, so only calls whose check still holds when
they insert are kept to one success. -/
namespace BallotProof
open Python Calls

section
variable {sha256 : Bytes → Digest} {good : AuthTransaction → AuthDb → Prop} {invariant : AuthDb → Prop}
  {rely : AuthDb → AuthDb → Prop} {post : List (AuthDb × AuthDb) → Result α → Prop}

theorem write_bind (written : AuthWrite) (next : AuthCall α) (f : α → AuthCall β) :
    (write written next).bind f = write written (next.bind f) := by
  simp only [write, Call.bind]
  congr 1
  funext written
  cases written <;> rfl

/-- A write commits and the call goes on, or it is rolled back and the call raises. -/
theorem follows_write (reflexive : ∀ db, rely db db)
    (commits : ∀ db after, invariant db → rely seen db → good (.write written) db →
      written.apply sha256 db = .ok after → invariant after ∧ rely db after ∧
        Follows (AuthTransaction.exec sha256) good invariant rely post next (history ++ [(db, after)]) after)
    (raises : ∀ db e, invariant db → rely seen db → good (.write written) db →
      written.apply sha256 db = .error e → post (history ++ [(db, db)]) (.error e)) :
    Follows (AuthTransaction.exec sha256) good invariant rely post (write written next) history seen := by
  intro db kept later meets
  cases applied : written.apply sha256 db with
  | ok after =>
    obtain ⟨kept', moved, follows⟩ := commits db after kept later meets applied
    simp only [AuthTransaction.exec, applied, committed]
    exact ⟨kept', moved, follows⟩
  | error e =>
    simp only [AuthTransaction.exec, applied, committed]
    exact ⟨kept, reflexive db, raises db e kept later meets applied⟩

end

/-- When an identity is inserted, what the bootstrap check saw still holds, or the insert fails. -/
def CheckHolds : AuthTransaction → AuthDb → Prop
  | .write (.insertIdentity row _), db =>
    db.identities.isEmpty = true ∨ row.actorId ∈ db.identities.map (·.actorId)
  | _, _ => True

instance : ∀ t db, Decidable (CheckHolds t db)
  | .write (.insertIdentity row _), db =>
    inferInstanceAs (Decidable (db.identities.isEmpty = true ∨ row.actorId ∈ db.identities.map (·.actorId)))
  | .write (.updateRoles ..), _ | .write (.insertApiKey ..), _ | .write (.revokeApiKey ..), _
  | .write (.insertApproverKey _), _ | .write (.revokeApproverKey ..), _ | .countIdentities, _
  | .readIdentity _, _ | .readApiKeys, _ | .readApproverKey _, _ => isTrue trivial

/-- Some identity exists. -/
def Inhabited (db : AuthDb) : Prop := db.identities.isEmpty = false

section
variable {sha256 : Bytes → Digest} {α : Type}

/-- A call that succeeds has created the first identity. -/
def Opens (history : List (AuthDb × AuthDb)) (result : Result α) : Prop :=
  (∃ a, result = .ok a) → ∃ pair ∈ history, ¬Inhabited pair.1 ∧ Inhabited pair.2

theorem Inhabited.insert {db after : AuthDb}
    (h : (AuthWrite.insertIdentity row performedBy).apply sha256 db = .ok after) :
    row.actorId ∉ db.identities.map (·.actorId) ∧ Inhabited after := by
  cases apply_writes h with
  | insertIdentity fresh appended => exact ⟨fresh, by simp [Inhabited]⟩

/-- Identities are never removed. -/
theorem Inhabited.exec (t : AuthTransaction) {db : AuthDb} (some : Inhabited db) :
    Inhabited (t.exec sha256 db).2 := by
  cases t with
  | countIdentities | readIdentity | readApiKeys | readApproverKey => exact some
  | write written =>
    simp only [AuthTransaction.exec]
    cases applied : written.apply sha256 db with
    | error e => exact some
    | ok after =>
      cases apply_writes applied with
      | insertIdentity fresh appended => simp [Inhabited]
      | updateRoles appended => simpa [Inhabited, Sql.updateRow] using some
      | insertApiKey | revokeApiKey | insertApproverKey | revokeApproverKey => exact some

/-- The contract of a bootstrap call, in any company. -/
abbrev BootstrapFollows (sha256 : Bytes → Digest) (call : AuthCall α) (history : List (AuthDb × AuthDb))
    (seen : AuthDb) : Prop :=
  Follows (AuthTransaction.exec sha256) CheckHolds (fun _ => True) (fun _ _ => True) Opens call history seen

/-- Once the call has created the first identity, nothing more is asked of it. -/
theorem follows_opened {call : AuthCall α}
    (opened : ∃ pair ∈ history, ¬Inhabited pair.1 ∧ Inhabited pair.2) :
    BootstrapFollows sha256 call history seen := by
  induction call generalizing history seen with
  | done result => exact fun _ => opened
  | transact t next ih =>
    intro db _ _ _
    obtain ⟨pair, member, flips⟩ := opened
    exact ⟨trivial, trivial, ih _ ⟨pair, List.mem_append_left _ member, flips⟩⟩

theorem bootstrapCounted_follows (count : Nat) :
    BootstrapFollows sha256 (bootstrapCounted actorId displayName keyId secret createdAt issuedAt count)
      history seen := by
  unfold bootstrapCounted createIdentity
  by_cases counted : count ≠ 0
  · rw [if_pos counted]
    rintro ⟨a, failed⟩
    cases failed
  · rw [if_neg counted]
    by_cases blank : strip actorId.toList = []
    · rw [if_pos blank]
      rintro ⟨a, failed⟩
      cases failed
    · rw [if_neg blank, if_neg (by simp), write_bind]
      refine follows_write (fun _ => trivial) (fun db after _ _ meets applied => ?_) fun _ _ _ _ _ _ => ?_
      · obtain ⟨fresh, created⟩ := Inhabited.insert applied
        have empty : ¬Inhabited db := by
          rcases meets with empty | taken
          · simp [Inhabited, empty]
          · exact absurd taken fresh
        exact ⟨trivial, trivial, follows_opened ⟨(db, after), by simp, empty, created⟩⟩
      · rintro ⟨a, failed⟩
        cases failed

theorem bootstrapAdmin_follows :
    BootstrapFollows sha256 (bootstrapAdmin actorId displayName keyId secret createdAt issuedAt) [] seen :=
  fun _ _ _ _ => ⟨trivial, trivial, bootstrapCounted_follows _⟩

end

/-- The bootstrap calls of several processes on an empty store. -/
def BootstrapCalls (events : List (Event AuthTransaction.Answer Error ApiKeyIssued)) : Prop :=
  ∀ call, .start call ∈ events → ∃ actorId displayName keyId secret createdAt issuedAt,
    call = bootstrapAdmin actorId displayName keyId secret createdAt issuedAt

/-- Where each identity is inserted while the check still holds, at most one bootstrap succeeds. -/
theorem bootstrap_once (sha256 : Bytes → Digest)
    (events : List (Event AuthTransaction.Answer Error ApiKeyIssued)) (calls : BootstrapCalls events)
    (meets : Meets (AuthTransaction.exec sha256) CheckHolds (Pool.initial AuthDb.empty) events) :
    let pool := run (AuthTransaction.exec sha256) (Pool.initial AuthDb.empty) events
    ∀ (i j : Nat) (a b : ApiKeyIssued) (first second : List (AuthDb × AuthDb)),
      pool.calls[i]? = some ⟨.done (.ok a), first⟩ → pool.calls[j]? = some ⟨.done (.ok b), second⟩ → i = j := by
  intro pool i j a b first second hi hj
  have flipped : FlippedOnce Inhabited pool :=
    run_flippedOnce (fun t _ some => Inhabited.exec t some) events flippedOnce_initial
  have starts : ∀ call, .start call ∈ events → ∀ db, True → BootstrapFollows sha256 call [] db := by
    intro call started db _
    obtain ⟨actorId, displayName, keyId, secret, createdAt, issuedAt, rfl⟩ := calls call started
    exact bootstrapAdmin_follows
  have kept := run_kept (fun _ => trivial) (fun _ _ _ _ _ => trivial) (kept_initial trivial) starts meets
  have opens (k : Nat) (c : ApiKeyIssued) (history : List (AuthDb × AuthDb))
      (found : pool.calls[k]? = some ⟨.done (.ok c), history⟩) :
      Flips Inhabited (⟨.done (.ok c), history⟩ : Running AuthTransaction.Answer Error ApiKeyIssued AuthDb) :=
    kept.calls _ (List.mem_of_getElem? found) ⟨c, rfl⟩
  exact flipped.once i j _ _ hi hj (opens i a first hi) (opens j b second hj)

/-- A moment of the clock. -/
def bootstrapClock : Timestamp := .aware (Datetime.utc 0 Datetime.epoch_range)

def bootstrapCall (actorId keyId : String) : AuthCall ApiKeyIssued :=
  bootstrapAdmin actorId none keyId "s" bootstrapClock bootstrapClock

/-- One process bootstraps, then the other. -/
def oneByOne : List (Event AuthTransaction.Answer Error ApiKeyIssued) :=
  [.start (bootstrapCall "a" "0"), .start (bootstrapCall "b" "1"), .advance 0, .advance 0, .advance 0,
    .advance 0, .advance 1]

/-- Both processes count, then both go on. -/
def bothCounted : List (Event AuthTransaction.Answer Error ApiKeyIssued) :=
  [.start (bootstrapCall "a" "0"), .start (bootstrapCall "b" "1"), .advance 0, .advance 1, .advance 0,
    .advance 0, .advance 0, .advance 1, .advance 1, .advance 1]

/-- The call has returned a key. -/
def issued (running : Running AuthTransaction.Answer Error ApiKeyIssued AuthDb) : Bool :=
  match running.call with
  | .done (.ok _) => true
  | _ => false

theorem issued_done {running : Running AuthTransaction.Answer Error ApiKeyIssued AuthDb}
    (h : issued running = true) : ∃ key history, running = ⟨.done (.ok key), history⟩ := by
  obtain ⟨call, history⟩ := running
  cases call with
  | transact t next => cases h
  | done result =>
    cases result with
    | error e => cases h
    | ok key => exact ⟨key, history, rfl⟩

theorem oneByOne_bootstraps : BootstrapCalls oneByOne ∧ BootstrapCalls bothCounted := by
  refine ⟨fun call started => ?_, fun call started => ?_⟩
  all_goals
    simp only [oneByOne, bothCounted, List.mem_cons, Event.start.injEq, reduceCtorEq, or_false, false_or,
      List.not_mem_nil] at started
    rcases started with rfl | rfl
    · exact ⟨_, _, _, _, _, _, rfl⟩
    · exact ⟨_, _, _, _, _, _, rfl⟩

theorem oneByOne_once :
    let pool := run (AuthTransaction.exec checksum) (Pool.initial AuthDb.empty) oneByOne
    pool.calls.map issued = [true, false] ∧
      ∀ (i j : Nat) (a b : ApiKeyIssued) (first second : List (AuthDb × AuthDb)),
        pool.calls[i]? = some ⟨.done (.ok a), first⟩ → pool.calls[j]? = some ⟨.done (.ok b), second⟩ → i = j := by
  have answered : (run (AuthTransaction.exec checksum) (Pool.initial AuthDb.empty) oneByOne).calls.map issued =
      [true, false] := by decide +kernel
  exact ⟨answered, bootstrap_once checksum oneByOne oneByOne_bootstraps.1 (by decide +kernel)⟩

/-- Two processes that count before either inserts both become administrators. -/
theorem bothCounted_bootstrapped :
    BootstrapCalls bothCounted ∧
      ¬∀ (i j : Nat) (a b : ApiKeyIssued) (first second : List (AuthDb × AuthDb)),
        (run (AuthTransaction.exec checksum) (Pool.initial AuthDb.empty) bothCounted).calls[i]? =
            some ⟨.done (.ok a), first⟩ →
        (run (AuthTransaction.exec checksum) (Pool.initial AuthDb.empty) bothCounted).calls[j]? =
            some ⟨.done (.ok b), second⟩ → i = j := by
  refine ⟨oneByOne_bootstraps.2, fun once => ?_⟩
  generalize ran : (run (AuthTransaction.exec checksum) (Pool.initial AuthDb.empty) bothCounted).calls = calls at once
  have answered : calls.map issued = [true, true] := by
    rw [← ran]
    decide +kernel
  obtain ⟨first, second, rfl⟩ := List.length_eq_two.mp (by simpa using congrArg List.length answered)
  simp only [List.map_cons, List.map_nil, List.cons.injEq, and_true] at answered
  obtain ⟨a, _, rfl⟩ := issued_done answered.1
  obtain ⟨b, _, rfl⟩ := issued_done answered.2
  exact absurd (once 0 1 a b _ _ rfl rfl) (by decide)

end BallotProof
