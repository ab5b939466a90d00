import BallotProof.SemanticContents

/-! The semantic records are decided by the set of normal forms: keys tell normal forms
apart, copies collapse, and sorting forgets the order. -/
namespace BallotProof
open Python

variable {sha256 : Bytes → Digest} {repr : Json → String}

theorem index_wellFormed {d : Dict} (h : d.index key = .ok value) : value.wellFormed = true := by
  unfold Dict.index at h
  split at h
  · rename_i found
    cases h
    exact get_wellFormed found
  · cases h

theorem getD_wellFormed (d : Dict) (key : String) : ((d.get key).getD .null).wellFormed = true := by
  cases found : d.get key with
  | none => simp only [Option.getD_none, Json.wellFormed]
  | some value => exact get_wellFormed found

theorem sortedObjects_wellFormed {value : Json} (valid : value.wellFormed = true)
    (h : sortedObjects value label = .ok items) : (Json.arr items).wellFormed = true := by
  unfold sortedObjects at h
  split at h
  · cases h
    exact sortObjects_wellFormed valid
  · cases h

theorem registryPayload_wellFormed (h : registryPayload r = .ok payload) :
    payload.wellFormed = true := by
  obtain ⟨_, -, h⟩ := bind_ok h
  obtain ⟨d, -, h⟩ := bind_ok h
  cases h
  exact (sortList (sortList d "offices") "units").wellFormed

theorem evidencePayload_wellFormed (h : evidencePayload r = .ok payload) :
    payload.wellFormed = true := by
  obtain ⟨electionId, h1, h⟩ := bind_ok h
  obtain ⟨pollingUnitCode, h2, h⟩ := bind_ok h
  obtain ⟨documentType, h3, h⟩ := bind_ok h
  obtain ⟨source, h4, h⟩ := bind_ok h
  obtain ⟨artifactSha256, h5, h⟩ := bind_ok h
  obtain ⟨artifactSizeBytes, h6, h⟩ := bind_ok h
  obtain ⟨observedAt, h7, h⟩ := bind_ok h
  cases h
  simp only [Json.wellFormed, wellFormedEntries, Bool.and_eq_true]
  exact ⟨by simp only [keysAscend]; decide, index_wellFormed h5, index_wellFormed h6,
    index_wellFormed h3, index_wellFormed h1, getD_wellFormed .., index_wellFormed h7,
    index_wellFormed h2, index_wellFormed h4, trivial⟩

theorem attestationPayload_wellFormed (h : attestationPayload repr refs signed = .ok payload) :
    payload.wellFormed = true := by
  obtain ⟨value, -, h⟩ := bind_ok h
  obtain ⟨inner, -, h⟩ := bind_ok h
  obtain ⟨ref, -, h⟩ := bind_ok h
  obtain ⟨actorId, h1, h⟩ := bind_ok h
  obtain ⟨statement, h2, h⟩ := bind_ok h
  obtain ⟨issuedAt, h3, h⟩ := bind_ok h
  obtain ⟨algorithm, h4, h⟩ := bind_ok h
  obtain ⟨publicKeyB64, h5, h⟩ := bind_ok h
  cases h
  simp only [Json.wellFormed, wellFormedEntries, Bool.and_eq_true]
  exact ⟨by simp only [keysAscend]; decide, index_wellFormed h1, index_wellFormed h4, trivial,
    index_wellFormed h3, getD_wellFormed .., index_wellFormed h5, index_wellFormed h2, trivial⟩

theorem reviewPayload_wellFormed (h : reviewPayload ref review = .ok payload) :
    payload.wellFormed = true := by
  obtain ⟨reviewerId, h1, h⟩ := bind_ok h
  obtain ⟨value, h2, h⟩ := bind_ok h
  obtain ⟨fields, h3, h⟩ := bind_ok h
  cases h
  simp only [Json.wellFormed, wellFormedEntries, Bool.and_eq_true]
  exact ⟨by simp only [keysAscend]; decide, trivial,
    sortedObjects_wellFormed (index_wellFormed h2) h3, index_wellFormed h1, trivial⟩

theorem extractionPayload_wellFormed (h : extractionBody repr refs payload = .ok body)
    (supersedesRef : Option Digest) : (body.payload supersedesRef).wellFormed = true := by
  obtain ⟨ref, -, h⟩ := bind_ok h
  obtain ⟨value, -, h⟩ := bind_ok h
  obtain ⟨provenance, -, h⟩ := bind_ok h
  obtain ⟨status, h1, h⟩ := bind_ok h
  obtain ⟨list, h2, h⟩ := bind_ok h
  obtain ⟨fields, h3, h⟩ := bind_ok h
  cases h
  have fields := sortedObjects_wellFormed (index_wellFormed h2) h3
  have provenance := (provenance.pop "created_at").wellFormed
  have status := index_wellFormed h1
  cases supersedesRef with
  | none =>
    simp only [ExtractionBody.payload, List.append_nil, Json.wellFormed, wellFormedEntries,
      Bool.and_eq_true]
    exact ⟨by simp only [keysAscend]; decide, trivial, fields, provenance, status, trivial⟩
  | some ref =>
    simp only [ExtractionBody.payload, List.cons_append, List.nil_append, Json.wellFormed,
      wellFormedEntries, Bool.and_eq_true]
    exact ⟨by simp only [keysAscend]; decide, trivial, fields, provenance, status, trivial, trivial⟩

theorem Extracts.wellFormed (h : Extracts sha256 repr index extractionId result) :
    result.2.wellFormed = true := by
  have body {k node} (found : index.node sha256 repr k = .ok node) (below : Option (Digest × Json)) :
      (node.2 below).2.wellFormed = true := by
    simp only [SemanticIndex.node, extractionNode] at found
    split at found
    · cases found
    · obtain ⟨body, read, found⟩ := bind_ok found
      cases found
      exact extractionPayload_wellFormed read _
  obtain ⟨n, h⟩ := h
  cases h with
  | last found => exact body found none
  | step found => exact body found (some _)

theorem Normal.wellFormed (h : Normal sha256 repr index r pair) : pair.2.wellFormed = true := by
  obtain ⟨-, h⟩ := h
  split at h
  · exact registryPayload_wellFormed h
  · exact evidencePayload_wellFormed h
  · obtain ⟨key, h⟩ := h; exact h.wellFormed
  · exact attestationPayload_wellFormed h
  · obtain ⟨extractionId, result, -, -, h⟩ := h; exact reviewPayload_wellFormed h

theorem semanticPreimage_injective {a b : NormalRecord} (ha : a.2.wellFormed = true) (hb : b.2.wellFormed = true)
    (same : semanticPreimage a.1 a.2 = semanticPreimage b.1 b.2) : a = b := by
  have valid {pair : NormalRecord} (h : pair.2.wellFormed = true) : Json.wellFormed
      (.obj [("payload", pair.2), ("record_type", .str pair.1.text)]) = true := by
    simp only [Json.wellFormed, wellFormedEntries, h, Bool.and_true, Bool.and_self]
    simp only [keysAscend]
    decide
  have same := canonicalJsonBytes_injective (valid ha) (valid hb) same
  simp only [Json.obj.injEq, List.cons.injEq, Prod.mk.injEq, Json.str.injEq, true_and, and_true,
    RecordType.text_injective.eq_iff] at same
  exact Prod.ext same.2 same.1

/-- Records that agree in type and key are the same record. -/
def Consistent (candidates : List SemanticRecord) : Prop :=
  ∀ a ∈ candidates, ∀ b ∈ candidates, a.identity = b.identity → a = b

theorem addUnique_ok (consistent : Consistent candidates) (member : r ∈ candidates)
    (among : unique ⊆ candidates) (distinct : (unique.map SemanticRecord.identity).Nodup) :
    ∃ next, addUnique unique r = .ok next ∧ (next.map SemanticRecord.identity).Nodup ∧
      ∀ x, x ∈ next ↔ x ∈ unique ∨ x = r := by
  unfold addUnique
  cases found : unique.find? (·.identity = r.identity) with
  | none =>
    have fresh := List.find?_eq_none.mp found
    refine ⟨_, rfl, ?_, by simp⟩
    rw [List.map_append, List.map_singleton]
    refine List.nodup_append.mpr ⟨distinct, List.nodup_singleton _, ?_⟩
    rintro key old other new rfl
    obtain ⟨x, hx, rfl⟩ := List.mem_map.mp old
    exact fresh x hx (by simpa using new)
  | some existing =>
    have stored := List.mem_of_find?_eq_some found
    have identity : existing.identity = r.identity := by simpa using List.find?_some found
    have same := consistent existing (among stored) r member identity
    have kept : (unique.map fun x => if x.identity = r.identity then r else x) = unique := by
      refine (List.map_congr_left fun x hx => ?_).trans (List.map_id _)
      split
      · rename_i agrees
        exact (consistent x (among hx) r member agrees).symm
      · rfl
    refine ⟨unique, ?_, distinct, fun x => ⟨.inl, ?_⟩⟩
    · simp only [same, Json.pyEq_refl, raiseIf, kept]
      rfl
    · rintro (old | rfl)
      · exact old
      · exact same ▸ stored

/-- The dict `unique` gets exactly the candidates. -/
theorem uniqueRecords (consistent : Consistent candidates) :
    ∃ unique, candidates.foldlM addUnique [] = .ok unique ∧
      (unique.map SemanticRecord.identity).Nodup ∧ ∀ x, x ∈ unique ↔ x ∈ candidates := by
  refine @foldlM_total _ _ [] addUnique (fun front unique =>
    (unique.map SemanticRecord.identity).Nodup ∧ ∀ x, x ∈ unique ↔ x ∈ front) candidates
    ⟨List.nodup_nil, fun _ => Iff.rfl⟩ ?_
  intro front r back unique all done
  have among : unique ⊆ candidates := fun x hx => by
    rw [all]
    exact List.mem_append_left _ ((done.2 x).mp hx)
  have member : r ∈ candidates := by simp [all]
  obtain ⟨next, added, distinct, members⟩ := addUnique_ok consistent member among done.1
  exact ⟨next, added, distinct, fun x => by simp [members, done.2]⟩

instance : Std.Total semanticAscend :=
  ⟨fun a b => le_total (semanticSortKey a) (semanticSortKey b)⟩

instance : IsTrans SemanticRecord semanticAscend := ⟨fun _ _ _ ab bc => le_trans ab bc⟩

theorem semanticSortKey_inj (h : semanticSortKey a = semanticSortKey b) : a.identity = b.identity := by
  have h := Prod.mk.inj (toLex.injective h)
  exact Prod.ext (RecordType.text_injective h.1) (Digest.hex_injective h.2)

/-- Sorting forgets the order in which the dict was filled. -/
theorem sortedUnique_eq {a b : List SemanticRecord} (ha : (a.map SemanticRecord.identity).Nodup)
    (hb : (b.map SemanticRecord.identity).Nodup) (same : ∀ x, x ∈ a ↔ x ∈ b) :
    a.insertionSort semanticAscend = b.insertionSort semanticAscend := by
  have perm : a.Perm b := (List.perm_ext_iff_of_nodup ha.of_map hb.of_map).mpr same
  apply @List.Perm.eq_of_pairwise _ semanticAscend _ _ _ (List.pairwise_insertionSort _ a)
    (List.pairwise_insertionSort _ b)
    ((List.perm_insertionSort _ a).trans (perm.trans (List.perm_insertionSort _ b).symm))
  intro x y hx hy xy yx
  have hx : x ∈ a := (List.perm_insertionSort _ a).mem_iff.mp hx
  have hy : y ∈ a := perm.mem_iff.mpr ((List.perm_insertionSort _ b).mem_iff.mp hy)
  exact List.inj_on_of_nodup_map ha hx hy (semanticSortKey_inj (le_antisymm xy yx))

/-- The bytes whose digests are the semantic keys of a list of normal forms. -/
def keyPreimages (normalized : List NormalRecord) : List Bytes :=
  normalized.map fun pair => semanticPreimage pair.1 pair.2

theorem consistent_of_collisionFree (free : CollisionFree sha256 (keyPreimages normalized))
    (valid : ∀ pair ∈ normalized, pair.2.wellFormed = true) :
    Consistent (normalized.map (semanticRecord sha256)) := by
  intro a ha b hb same
  obtain ⟨p, hp, rfl⟩ := List.mem_map.mp ha
  obtain ⟨q, hq, rfl⟩ := List.mem_map.mp hb
  have digests : sha256 (semanticPreimage p.1 p.2) = sha256 (semanticPreimage q.1 q.2) :=
    congrArg Prod.snd same
  have preimages := free _ (List.mem_map_of_mem hp) _ (List.mem_map_of_mem hq) digests
  rw [semanticPreimage_injective (valid p hp) (valid q hq) preimages]

/-- The semantic records depend on the set of normal forms only. -/
theorem semanticRecords_congr (normal : normalizedRecords sha256 repr records = .ok normalized)
    (relisted : normalizedRecords sha256 repr records' = .ok normalized')
    (same : ∀ pair, pair ∈ normalized' ↔ pair ∈ normalized)
    (valid : ∀ pair ∈ normalized, pair.2.wellFormed = true)
    (free : CollisionFree sha256 (keyPreimages normalized)) :
    semanticRecords sha256 repr records' = semanticRecords sha256 repr records := by
  have free' : CollisionFree sha256 (keyPreimages normalized') := free.mono fun x hx => by
    obtain ⟨p, hp, rfl⟩ := List.mem_map.mp hx
    exact List.mem_map_of_mem ((same p).mp hp)
  obtain ⟨unique, filled, distinct, members⟩ := uniqueRecords (consistent_of_collisionFree free valid)
  obtain ⟨unique', filled', distinct', members'⟩ := uniqueRecords
    (consistent_of_collisionFree free' fun pair hp => valid pair ((same pair).mp hp))
  have sorted := sortedUnique_eq distinct' distinct fun x => by
    simp only [members, members', List.mem_map, same]
  have left : semanticRecords sha256 repr records' = .ok (unique'.insertionSort semanticAscend) :=
    bind_eq_ok.mpr ⟨_, relisted, bind_eq_ok.mpr ⟨_, filled', rfl⟩⟩
  have right : semanticRecords sha256 repr records = .ok (unique.insertionSort semanticAscend) :=
    bind_eq_ok.mpr ⟨_, normal, bind_eq_ok.mpr ⟨_, filled, rfl⟩⟩
  rw [left, right, sorted]

end BallotProof
