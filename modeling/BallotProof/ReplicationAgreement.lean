import BallotProof.Replication

/-! Agreement of the replicated backend. What a replica stores at a path never changes, so a
read or a second put that meets a threshold of more than half of the replicas meets one
that confirmed the first put. -/
namespace BallotProof
open Python

theorem normalizeRelativePath_ok (h : normalizeRelativePath subject path = .ok out) : out = path := by
  simp only [normalizeRelativePath] at h
  split at h
  · cases h
  · split at h
    · cases h
    · exact (Except.ok.inj h).symm

/-- What a put does to one replica, whatever it replies. -/
structure PutEffect (before after : String → Option Bytes) : Prop where
  grows : Quorum.Grows before after
  paths : ∀ path value, after path = some value → before path = some value ∨
    normalizeRelativePath "publication" path = .ok path

theorem PutEffect.refl (stored : String → Option Bytes) : PutEffect stored stored :=
  ⟨Quorum.Grows.refl stored, fun _ _ h => .inl h⟩

theorem putBytes_effect (h : putBytes sha256 stored path data = (result, after)) :
    PutEffect stored after ∧ ∀ reference, result = .ok reference → after path = some data := by
  unfold putBytes at h
  split at h
  · cases h
    exact ⟨.refl stored, nofun⟩
  · split at h
    · cases h
      exact ⟨.refl stored, nofun⟩
    · rename_i out normal
      obtain rfl := normalizeRelativePath_ok normal
      split at h
      · rename_i old found
        split at h
        · cases h
          exact ⟨.refl stored, nofun⟩
        · rename_i same
          cases h
          exact ⟨.refl stored, fun _ _ => by rw [found, not_not.mp same]⟩
      · rename_i missing
        cases h
        refine ⟨⟨fun other value held => ?_, fun other value held => ?_⟩, fun _ _ => by simp⟩
        · by_cases same : other = out
          · subst same
            rw [missing] at held
            cases held
          · simpa [same] using held
        · by_cases same : other = out
          · subst same
            exact .inr normal
          · exact .inl (by simpa [same] using held)

/-- A put that returned was confirmed by enough replicas, and they store its bytes. -/
structure PutValid (backend : ReplicatedBackend) (stored : String → String → Option Bytes)
    (p : PutRecord) : Prop where
  holds : ∀ name ∈ p.confirmed, stored name p.path = some p.data
  distinct : p.confirmed.Nodup
  within : p.confirmed ⊆ backend.replicas
  enough : backend.minimumReplicas ≤ p.confirmed.length

/-- A put on its way through the replicas. -/
structure PutProgress (backend : ReplicatedBackend) (stored : String → String → Option Bytes)
    (path : String) (data : Bytes) (remaining : List String)
    (successes : List (String × ImmutableObjectRef)) : Prop where
  holds : ∀ success ∈ successes, stored success.1 path = some data
  distinct : (successes.map Prod.fst ++ remaining).Nodup
  within : successes.map Prod.fst ++ remaining ⊆ backend.replicas

/-- A read on its way through the replicas. -/
structure ReadProgress (backend : ReplicatedBackend) (stored : String → String → Option Bytes)
    (puts : List PutRecord) (path : String) (after : List PutRecord)
    (storedBefore : String → Option Bytes) (remaining reached : List String)
    (values : List (String × Bytes)) : Prop where
  grows : ∀ name value, storedBefore name = some value → stored name path = some value
  holds : ∀ value ∈ values, stored value.1 path = some value.2
  replied : ∀ name ∈ reached, ∀ value, storedBefore name = some value → (name, value) ∈ values
  named : (values.map Prod.fst).Sublist reached
  distinct : (reached ++ remaining).Nodup
  within : reached ++ remaining ⊆ backend.replicas
  recorded : after ⊆ puts
  confirmed : ∀ p ∈ after, p.path = path → ∀ name ∈ p.confirmed, storedBefore name = some p.data

def CallProgress (backend : ReplicatedBackend) (stored : String → String → Option Bytes)
    (puts : List PutRecord) : ReplicatedCall → Prop
  | .putting path data remaining successes _ => PutProgress backend stored path data remaining successes
  | .reading path after storedBefore remaining reached values _ =>
    ReadProgress backend stored puts path after storedBefore remaining reached values

structure ReplicationInvariant (sha256 : Bytes → Digest) (backend : ReplicatedBackend)
    (s : ReplicationState) : Prop where
  paths : ∀ name path value, s.stored name path = some value →
    normalizeRelativePath "publication" path = .ok path
  calls : ∀ call found, s.calls call = some found → CallProgress backend s.stored s.puts found
  puts : ∀ p ∈ s.puts, PutValid backend s.stored p
  reads : ∀ r ∈ s.reads, ReadProgress backend s.stored s.puts r.path r.after r.storedBefore []
      r.reached r.values ∧
    ∃ failures, r.result = readResult sha256 backend.minimumReplicas r.values failures

theorem ReadProgress.mono
    (valid : ReadProgress backend stored puts path after storedBefore remaining reached values)
    (grows : ∀ name, Quorum.Grows (stored name) (stored' name)) (more : puts ⊆ puts') :
    ReadProgress backend stored' puts' path after storedBefore remaining reached values :=
  ⟨fun name value held => grows _ _ _ (valid.grows name value held),
    fun value member => grows _ _ _ (valid.holds value member), valid.replied, valid.named,
    valid.distinct, valid.within, fun _ member => more (valid.recorded member), valid.confirmed⟩

theorem CallProgress.mono (valid : CallProgress backend stored puts call)
    (grows : ∀ name, Quorum.Grows (stored name) (stored' name)) (more : puts ⊆ puts') :
    CallProgress backend stored' puts' call := by
  cases call with
  | putting path data remaining successes failures =>
    exact ⟨fun success member => grows _ _ _ (valid.holds success member), valid.distinct, valid.within⟩
  | reading path after storedBefore remaining reached values failures =>
    exact ReadProgress.mono valid grows more

/-- Another step of a call, on stores that have only grown. -/
theorem ReplicationInvariant.setCall (valid : ReplicationInvariant sha256 backend s)
    (grows : ∀ name, PutEffect (s.stored name) (stored name))
    (next_valid : ∀ found, next = some found → CallProgress backend stored s.puts found) :
    ReplicationInvariant sha256 backend ({ s with stored }.setCall call next) := by
  have larger name := (grows name).grows
  refine ⟨fun name path value held => ?_, fun other found h => ?_, fun p member => ?_, fun r member => ?_⟩
  · rcases (grows name).paths path value held with old | new
    · exact valid.paths name path value old
    · exact new
  · rcases ReplicationState.setCall_calls h with old | new
    · exact (valid.calls other found old).mono larger fun _ h => h
    · exact next_valid found new
  · have old := valid.puts p member
    exact ⟨fun name confirmed => larger name _ _ (old.holds name confirmed), old.distinct,
      old.within, old.enough⟩
  · obtain ⟨progress, result⟩ := valid.reads r member
    exact ⟨progress.mono larger fun _ h => h, result⟩

/-- The stores are as they were. -/
theorem ReplicationInvariant.setCall_only (valid : ReplicationInvariant sha256 backend s)
    (next_valid : ∀ found, next = some found → CallProgress backend s.stored s.puts found) :
    ReplicationInvariant sha256 backend (s.setCall call next) :=
  valid.setCall (fun name => .refl (s.stored name)) next_valid

/-- The replica has replied or failed; it is asked once. -/
theorem PutProgress.skip (valid : PutProgress backend stored path data (name :: remaining) successes)
    (grows : ∀ name, Quorum.Grows (stored name) (stored' name)) :
    PutProgress backend stored' path data remaining successes := by
  refine ⟨fun success member => grows _ _ _ (valid.holds success member), ?_, ?_⟩
  · exact valid.distinct.sublist (List.Sublist.append_left (List.sublist_cons_self _ _) _)
  · exact fun other member => valid.within
      ((List.Sublist.append_left (List.sublist_cons_self _ _) _).subset member)

theorem PutProgress.confirm (valid : PutProgress backend stored path data (name :: remaining) successes)
    (grows : ∀ name, Quorum.Grows (stored name) (stored' name)) (holds : stored' name path = some data) :
    PutProgress backend stored' path data remaining (successes ++ [(name, reference)]) := by
  have names : (successes ++ [(name, reference)]).map Prod.fst ++ remaining =
      successes.map Prod.fst ++ name :: remaining := by simp
  refine ⟨fun success member => ?_, names ▸ valid.distinct, names ▸ valid.within⟩
  rcases List.mem_append.mp member with old | new
  · exact grows _ _ _ (valid.holds success old)
  · rw [List.mem_singleton.mp new]
    exact holds

theorem ReadProgress.skip
    (valid : ReadProgress backend stored puts path after storedBefore (name :: remaining) reached values) :
    ReadProgress backend stored puts path after storedBefore remaining reached values := by
  refine ⟨valid.grows, valid.holds, valid.replied, valid.named, ?_, ?_, valid.recorded, valid.confirmed⟩
  · exact valid.distinct.sublist (List.Sublist.append_left (List.sublist_cons_self _ _) _)
  · exact fun other member => valid.within
      ((List.Sublist.append_left (List.sublist_cons_self _ _) _).subset member)

/-- A replica is reached, with the value it replies if it stores one. -/
theorem ReadProgress.reach
    (valid : ReadProgress backend stored puts path after storedBefore (name :: remaining) reached values)
    (reply : ∀ value ∈ answer, value = (name, value.2) ∧ stored name path = some value.2)
    (single : answer.length ≤ 1)
    (complete : ∀ value, stored name path = some value → (name, value) ∈ answer) :
    ReadProgress backend stored puts path after storedBefore remaining (reached ++ [name])
      (values ++ answer) := by
  have names : reached ++ [name] ++ remaining = reached ++ name :: remaining := by simp
  refine ⟨valid.grows, fun value member => ?_, fun other member value held => ?_, ?_,
    names ▸ valid.distinct, names ▸ valid.within, valid.recorded, valid.confirmed⟩
  · rcases List.mem_append.mp member with old | new
    · exact valid.holds value old
    · obtain ⟨named, holds⟩ := reply value new
      rw [named]
      exact holds
  · rcases List.mem_append.mp member with old | new
    · exact List.mem_append_left _ (valid.replied other old value held)
    · obtain rfl := List.mem_singleton.mp new
      exact List.mem_append_right _ (complete value (valid.grows other value held))
  · rw [List.map_append]
    refine valid.named.append ?_
    match answer, single with
    | [], _ => exact List.nil_sublist _
    | [value], _ =>
      have named := (reply value (List.mem_singleton_self _)).1
      rw [named]
      exact List.Sublist.refl _

theorem readBytes_ok (h : readBytes stored path = .ok value) : stored path = some value := by
  unfold readBytes at h
  split at h
  · cases h
  · rename_i out normal
    obtain rfl := normalizeRelativePath_ok normal
    split at h
    · cases h
    · rename_i data found
      rw [found, Except.ok.inj h]

theorem readBytes_stored (normal : normalizeRelativePath "publication" path = .ok path)
    (found : stored path = some value) : readBytes stored path = .ok value := by
  simp only [readBytes, normal, found]

theorem putResult_ok (h : putResult sha256 minimum path data successes failures = .ok reference) :
    minimum ≤ successes.length := by
  obtain ⟨_, enough, -⟩ := bind_ok h
  exact not_lt.mp (raiseIf_ok.mp enough)

theorem ReplicationInvariant.recordPut (valid : ReplicationInvariant sha256 backend s)
    (confirmed : PutValid backend s.stored p) :
    ReplicationInvariant sha256 backend { s with puts := s.puts ++ [p] } := by
  have more : s.puts ⊆ s.puts ++ [p] := List.subset_append_left _ _
  have same name := Quorum.Grows.refl (s.stored name)
  refine ⟨valid.paths, fun call found h => (valid.calls call found h).mono same more,
    fun q member => ?_, fun r member => ?_⟩
  · rcases List.mem_append.mp member with old | new
    · exact valid.puts q old
    · rw [List.mem_singleton.mp new]
      exact confirmed
  · obtain ⟨progress, result⟩ := valid.reads r member
    exact ⟨progress.mono same more, result⟩

theorem ReplicationInvariant.recordRead (valid : ReplicationInvariant sha256 backend s)
    (progress : ReadProgress backend s.stored s.puts r.path r.after r.storedBefore [] r.reached r.values)
    (result : r.result = readResult sha256 backend.minimumReplicas r.values failures) :
    ReplicationInvariant sha256 backend { s with reads := s.reads ++ [r] } := by
  refine ⟨valid.paths, valid.calls, valid.puts, fun other member => ?_⟩
  rcases List.mem_append.mp member with old | new
  · exact valid.reads other old
  · rw [List.mem_singleton.mp new]
    exact ⟨progress, failures, result⟩

theorem replicationStep_invariant (valid : ReplicationInvariant sha256 backend s)
    (h : replicationStep sha256 backend s a = some t) : ReplicationInvariant sha256 backend t := by
  cases a with
  | put call path data =>
    simp only [replicationStep] at h
    split at h
    · cases h
      refine valid.setCall_only fun found same => ?_
      cases same
      exact ⟨by simp, by simpa using backend.distinct, by simp⟩
    · cases h
  | putReplica call reply =>
    simp only [replicationStep] at h
    split at h
    · rename_i path data name remaining successes failures calling
      have progress : PutProgress backend s.stored path data (name :: remaining) successes :=
        valid.calls call _ calling
      cases put : putBytes sha256 (s.stored name) path data with
      | mk result stored =>
        obtain ⟨effect, confirms⟩ := putBytes_effect put
        rw [put] at h
        have effects (other : String) :
            PutEffect (s.stored other) (Function.update s.stored name stored other) := by
          by_cases same : other = name
          · subst same
            simpa using effect
          · simpa [same] using PutEffect.refl (s.stored other)
        have larger other := (effects other).grows
        simp only at h
        split at h
        · cases h
          refine valid.setCall_only fun found same => ?_
          cases same
          exact progress.skip fun other => .refl (s.stored other)
        · rename_i reference
          cases h
          refine valid.setCall effects fun found same => ?_
          cases same
          exact progress.confirm larger (by simpa using confirms reference rfl)
        · cases h
          refine valid.setCall effects fun found same => ?_
          cases same
          exact progress.skip larger
    · cases h
  | putReturn call =>
    simp only [replicationStep] at h
    split at h
    · rename_i path data successes failures calling
      have progress : PutProgress backend s.stored path data [] successes := valid.calls call _ calling
      split at h
      · rename_i reference ended
        cases h
        have confirmed : PutValid backend s.stored ⟨path, data, successes.map Prod.fst⟩ := by
          refine ⟨fun name member => ?_, by simpa using progress.distinct,
            by simpa using progress.within, by simpa using putResult_ok ended⟩
          obtain ⟨success, among, rfl⟩ := List.mem_map.mp member
          exact progress.holds success among
        exact (valid.recordPut confirmed).setCall_only (by simp)
      · cases h
        exact valid.setCall_only (by simp)
    · cases h
  | read call path =>
    simp only [replicationStep] at h
    split at h
    · cases h
      refine valid.setCall_only fun found same => ?_
      cases same
      refine ⟨fun _ _ h => h, by simp, by simp, by simp, by simpa using backend.distinct, by simp,
        fun _ h => h, fun p member same name confirmed => ?_⟩
      rw [← same]
      exact (valid.puts p member).holds name confirmed
    · cases h
  | readReplica call replies =>
    simp only [replicationStep] at h
    split at h
    · rename_i path after storedBefore name remaining reached values failures calling
      have progress : ReadProgress backend s.stored s.puts path after storedBefore (name :: remaining)
          reached values := valid.calls call _ calling
      cases h
      refine valid.setCall_only fun found same => ?_
      cases same
      split
      · rename_i value replied
        have found := readBytes_ok replied
        exact progress.reach (by simp [found]) (by simp) (by simp [found])
      · rename_i e failed
        have missing : ∀ value, s.stored name path ≠ some value := fun value found => by
          rw [readBytes_stored (valid.paths name path value found) found] at failed
          cases failed
        have next := @ReadProgress.reach backend s.stored s.puts path after storedBefore name
          remaining reached values [] progress (by simp) (by simp) fun value found =>
            absurd found (missing value)
        rwa [List.append_nil] at next
      · exact progress.skip
    · cases h
  | readReturn call =>
    simp only [replicationStep] at h
    split at h
    · rename_i path after storedBefore reached values failures calling
      have progress : ReadProgress backend s.stored s.puts path after storedBefore [] reached values :=
        valid.calls call _ calling
      cases h
      exact (valid.recordRead progress rfl).setCall_only (by simp)
    · cases h
  | abort call =>
    cases h
    exact valid.setCall_only (by simp)

theorem run_replicationInvariant
    (reached : Transition.run (replicationStep sha256 backend) .initial actions = some s) :
    ReplicationInvariant sha256 backend s :=
  Transition.run_preserves (fun _ _ _ valid => replicationStep_invariant valid)
    (by constructor <;> simp [ReplicationState.initial]) reached

/-- Exactly one distinct item. -/
theorem dedup_single [DecidableEq α] {items : List α} :
    items.dedup.length = 1 ↔ items ≠ [] ∧ ∀ a ∈ items, ∀ b ∈ items, a = b := by
  rw [← List.card_toFinset]
  constructor
  · intro one
    refine ⟨fun empty => ?_, fun a ha b hb => ?_⟩
    · simp [empty] at one
    · exact Finset.card_le_one.mp one.le a (List.mem_toFinset.mpr ha) b (List.mem_toFinset.mpr hb)
  · rintro ⟨some, same⟩
    refine le_antisymm (Finset.card_le_one.mpr fun a ha b hb => ?_) (Finset.card_pos.mpr ?_)
    · exact same a (List.mem_toFinset.mp ha) b (List.mem_toFinset.mp hb)
    · exact List.toFinset_nonempty_iff _ |>.mpr some

/-- A read returns the first of at least the threshold of values with one digest. -/
theorem readResult_ok : readResult sha256 minimum values failures = .ok value ↔
    minimum ≤ values.length ∧ (∀ a ∈ values, ∀ b ∈ values, sha256 a.2 = sha256 b.2) ∧
      ∃ name rest, values = (name, value) :: rest := by
  unfold readResult
  split
  · rename_i few
    simp [not_le.mpr few]
  · rename_i enough
    split
    · rename_i diverged
      simp only [reduceCtorEq, false_iff]
      rintro ⟨-, same, name, rest, rfl⟩
      refine diverged (dedup_single.mpr ⟨by simp, ?_⟩)
      intro a ha b hb
      obtain ⟨x, hx, rfl⟩ := List.mem_map.mp ha
      obtain ⟨y, hy, rfl⟩ := List.mem_map.mp hb
      exact same x hx y hy
    · rename_i agreed
      obtain ⟨some, same⟩ := dedup_single.mp (not_not.mp agreed)
      have digests : ∀ a ∈ values, ∀ b ∈ values, sha256 a.2 = sha256 b.2 := fun a ha b hb =>
        same _ (List.mem_map_of_mem ha) _ (List.mem_map_of_mem hb)
      match values with
      | [] => simp at some
      | (name, first) :: rest =>
        simp only [Except.ok.injEq]
        constructor
        · rintro rfl
          exact ⟨not_lt.mp enough, digests, name, rest, rfl⟩
        · rintro ⟨-, -, other, others, eq⟩
          cases eq
          rfl

/-- Two quorums of more than half meet in a replica. -/
theorem PutValid.meets (valid : PutValid backend stored p)
    (majority : backend.replicas.length < 2 * backend.minimumReplicas) {names : List String}
    (distinct : names.Nodup) (within : names ⊆ backend.replicas)
    (enough : backend.minimumReplicas ≤ names.length) :
    ∃ name ∈ names, stored name p.path = some p.data := by
  obtain ⟨name, here, confirmed⟩ := Quorum.shared distinct valid.distinct within valid.within
    (by have := valid.enough; omega)
  exact ⟨name, here, valid.holds name confirmed⟩

theorem ReadProgress.names
    (valid : ReadProgress backend stored puts path after storedBefore [] reached values) :
    (values.map Prod.fst).Nodup ∧ values.map Prod.fst ⊆ backend.replicas := by
  have distinct := valid.distinct
  have within := valid.within
  rw [List.append_nil] at distinct within
  exact ⟨distinct.sublist valid.named, fun name member => within (valid.named.subset member)⟩

/-- The reached replicas that stored some bytes before the read are among its values. -/
theorem ReadProgress.counted
    (valid : ReadProgress backend stored puts path after storedBefore [] reached values) (data : Bytes) :
    (reached.filter fun name => storedBefore name = some data).length ≤ values.length := by
  have distinct := valid.distinct
  rw [List.append_nil] at distinct
  have pairs : ((reached.filter fun name => storedBefore name = some data).map fun name =>
      (name, data)).Nodup :=
    (distinct.filter _).map fun _ _ same => (Prod.mk.inj same).1
  have among := @List.subperm_of_subset _ _ values pairs fun pair member => by
    obtain ⟨name, held, rfl⟩ := List.mem_map.mp member
    have held := List.mem_filter.mp held
    exact valid.replied name held.1 data (by simpa using held.2)
  simpa using among.length_le

/-- With every replica required, a confirmed put is what every replica replies. -/
theorem ReadProgress.unanimous
    (valid : ReadProgress backend stored puts p.path after storedBefore [] reached values)
    (confirmed : PutValid backend stored p) (all : backend.minimumReplicas = backend.replicas.length) :
    ∀ value ∈ values, value.2 = p.data := by
  intro value member
  have perm := (List.subperm_of_subset confirmed.distinct confirmed.within).perm_of_length_le
    (all ▸ confirmed.enough)
  have name := valid.names.2 (List.mem_map_of_mem member)
  have stored := confirmed.holds value.1 (perm.mem_iff.mpr name)
  rw [valid.holds value member] at stored
  exact Option.some.inj stored

/-- Above half of the replicas puts of one path agree, and a read returns what was put; a
read of the replicas that stored a put fails only on replicas with other bytes. -/
theorem replication_agreement {actions : List ReplicationAction}
    (reached : Transition.run (replicationStep sha256 backend) .initial actions = some s) :
    (backend.replicas.length < 2 * backend.minimumReplicas →
      (∀ p ∈ s.puts, ∀ q ∈ s.puts, p.path = q.path → p.data = q.data) ∧
      ∀ p ∈ s.puts, ∀ r ∈ s.reads, r.path = p.path →
        CollisionFree sha256 (p.data :: r.values.map Prod.snd) →
        ∀ value, r.result = .ok value → value = p.data) ∧
    ∀ r ∈ s.reads, ∀ p ∈ r.after, p.path = r.path →
      backend.minimumReplicas ≤ (r.reached.filter fun name => r.storedBefore name = some p.data).length →
      (CollisionFree sha256 (p.data :: r.values.map Prod.snd) →
        ((∃ value, r.result = .ok value) ↔ ∀ value ∈ r.values, value.2 = p.data)) ∧
      (backend.minimumReplicas = backend.replicas.length → r.result = .ok p.data) := by
  have valid := run_replicationInvariant reached
  refine ⟨fun majority => ⟨fun p hp q hq path => ?_, fun p hp r hr path free value ok => ?_⟩,
    fun r hr p hp path enough => ?_⟩
  · have confirmed := valid.puts q hq
    obtain ⟨name, here, stored⟩ := (valid.puts p hp).meets majority confirmed.distinct
      confirmed.within confirmed.enough
    have other := confirmed.holds name here
    rw [← path, stored] at other
    exact Option.some.inj other
  · obtain ⟨progress, failures, result⟩ := valid.reads r hr
    obtain ⟨length, same, name, rest, values⟩ := readResult_ok.mp (result ▸ ok)
    obtain ⟨distinct, within⟩ := progress.names
    obtain ⟨witness, here, stored⟩ := (valid.puts p hp).meets majority distinct within (by simpa using length)
    obtain ⟨pair, member, rfl⟩ := List.mem_map.mp here
    have held := progress.holds pair member
    rw [path, stored, Option.some.injEq] at held
    have digest := same (name, value) (by simp [values]) pair member
    rw [← held] at digest
    exact free value (by simp [values]) p.data (by simp) digest
  · obtain ⟨progress, failures, result⟩ := valid.reads r hr
    have counted := enough.trans (progress.counted p.data)
    have agreed (same : ∀ value ∈ r.values, value.2 = p.data) : r.result = .ok p.data := by
      rw [result]
      refine readResult_ok.mpr ⟨counted, fun a ha b hb => by rw [same a ha, same b hb], ?_⟩
      obtain ⟨first, rest, values⟩ := List.exists_cons_of_length_pos
        (backend.threshold.1.trans counted)
      refine ⟨first.1, rest, ?_⟩
      rw [values, ← same first (by simp [values])]
    refine ⟨fun free => ⟨fun ok value member => ?_, fun same => ⟨_, agreed same⟩⟩, fun all => ?_⟩
    · obtain ⟨read, ok⟩ := ok
      obtain ⟨-, same, -⟩ := readResult_ok.mp (result ▸ ok)
      obtain ⟨name, stored⟩ := List.exists_mem_of_length_pos (backend.threshold.1.trans enough)
      obtain ⟨here, holds⟩ := List.mem_filter.mp stored
      have confirmed := progress.replied name here p.data (by simpa using holds)
      exact free value.2 (by simp [List.mem_map_of_mem member]) p.data (by simp)
        (same value member (name, p.data) confirmed)
    · exact agreed (ReadProgress.unanimous (path ▸ progress) (valid.puts p (progress.recorded hp)) all)

def pair : ReplicatedBackend := ⟨["a", "b"], 1, by decide, by decide, by decide⟩
def triple : ReplicatedBackend := ⟨["a", "b", "c"], 2, by decide, by decide, by decide⟩

/-- A put whose calls to the replicas end with the replies. -/
def putWith (call : Nat) (data : Bytes) (replies : List Reply) : List ReplicationAction :=
  .put call "record.json" data :: replies.map (.putReplica call) ++ [.putReturn call]

def readWith (call : Nat) (replies : List Bool) : List ReplicationAction :=
  .read call "record.json" :: replies.map (.readReplica call) ++ [.readReturn call]

/-- A put that misses one replica of three, and a read that misses another. -/
def majorityRun : List ReplicationAction :=
  putWith 0 [1] [.received, .received, .lostBefore] ++ readWith 1 [true, true, true]

theorem majorityRun_agreement : ∃ s,
    Transition.run (replicationStep checksum triple) .initial majorityRun = some s ∧
    (∃ r ∈ s.reads, r.result = .ok [1]) ∧
    ∀ p ∈ s.puts, ∀ q ∈ s.puts, p.path = q.path → p.data = q.data := by
  obtain ⟨s, reached, read⟩ := @Transition.run_test _ _ (replicationStep checksum triple)
    .initial majorityRun (fun s => s.reads.any fun r => r.result = .ok [1]) (by decide +kernel)
  refine ⟨s, reached, by simpa using read, ((replication_agreement reached).1 (by decide)).1⟩

/-- Two puts that each reach one replica of two. -/
def splitRun : List ReplicationAction :=
  putWith 0 [1] [.received, .lostBefore] ++ putWith 1 [2] [.lostBefore, .received]

/-- A put that reaches one replica of three, then a put that reaches the other two. -/
def leftoverRun : List ReplicationAction :=
  putWith 0 [2] [.received, .lostBefore, .lostBefore] ++
    putWith 1 [1] [.received, .received, .received] ++ readWith 2 [true, true, true]

/-- With a threshold of half of the replicas two puts disagree, and with more than half a
read that reaches every replica fails on what a failed put left. -/
theorem replication_disagrees :
    ReplicatedBackend.create ["a", "b"] (by decide) (some 1) = .ok pair ∧
    ReplicatedBackend.create ["a", "b", "c"] (by decide) (some 2) = .ok triple ∧
    (∃ s, Transition.run (replicationStep checksum pair) .initial splitRun = some s ∧
      s.puts.map (·.path) = ["record.json", "record.json"] ∧ s.puts.map (·.data) = [[1], [2]]) ∧
    ∃ s, Transition.run (replicationStep checksum triple) .initial leftoverRun = some s ∧
      s.puts = [⟨"record.json", [1], ["b", "c"]⟩] ∧ s.reads.map (·.reached) = [["a", "b", "c"]] ∧
      ∀ r ∈ s.reads, r.after = s.puts ∧ ∀ value, r.result ≠ .ok value := by
  refine ⟨rfl, rfl, ?_, ?_⟩
  · obtain ⟨s, reached, both⟩ := @Transition.run_test _ _ (replicationStep checksum pair)
      .initial splitRun (fun s => s.puts.map (·.path) = ["record.json", "record.json"] ∧
        s.puts.map (·.data) = [[1], [2]]) (by decide +kernel)
    exact ⟨s, reached, by simpa using both⟩
  · obtain ⟨s, reached, failed⟩ := @Transition.run_test _ _ (replicationStep checksum triple)
      .initial leftoverRun (fun s => s.puts = [⟨"record.json", [1], ["b", "c"]⟩] ∧
        s.reads.map (·.reached) = [["a", "b", "c"]] ∧
        s.reads.all fun r => r.after = s.puts ∧ !r.result.toBool) (by decide +kernel)
    simp only [decide_eq_true_eq, List.all_eq_true] at failed
    refine ⟨s, reached, failed.1, failed.2.1, fun r member => ⟨(failed.2.2 r member).1, fun value ok => ?_⟩⟩
    have := (failed.2.2 r member).2
    rw [ok] at this
    cases this

end BallotProof
