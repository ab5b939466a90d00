import BallotProof.JsonReader

/-! Dicts with their invariant: keys in order without repeats and well-formed values.
Whatever `json.loads` returns keeps it, and so do the updates. -/
namespace Python

theorem wellFormedEntries_insert (hv : Json.wellFormed value = true)
    (h : wellFormedEntries entries = true) :
    wellFormedEntries (insert key value entries) = true := by
  induction entries with
  | nil => simp [insert, wellFormedEntries, hv]
  | cons first rest ih =>
    obtain ⟨k, v⟩ := first
    simp only [wellFormedEntries, Bool.and_eq_true] at h
    rw [insert]
    split_ifs <;> simp [wellFormedEntries, hv, h, ih]

theorem wellFormed_insert (hv : Json.wellFormed value = true)
    (h : (Json.obj entries).wellFormed = true) :
    (Json.obj (insert key value entries)).wellFormed = true := by
  simp only [Json.wellFormed, Bool.and_eq_true] at h ⊢
  exact ⟨keysAscend_insert h.1, wellFormedEntries_insert hv h.2⟩

theorem wellFormedEntries_iff : wellFormedEntries entries = true ↔
    ∀ entry ∈ entries, entry.2.wellFormed = true := by
  induction entries with
  | nil => simp [wellFormedEntries]
  | cons first rest ih =>
    obtain ⟨k, v⟩ := first
    simp [wellFormedEntries, ih]

theorem wellFormedItems_iff : wellFormedItems items = true ↔
    ∀ item ∈ items, item.wellFormed = true := by
  induction items with
  | nil => simp [wellFormedItems]
  | cons first rest ih => simp [wellFormedItems, ih]

theorem wellFormedEntries_dictOf (h : wellFormedEntries pairs = true) :
    wellFormedEntries (dictOf pairs) = true := by
  induction pairs using List.reverseRecOn with
  | nil => rfl
  | append_singleton pairs last ih =>
    rw [wellFormedEntries_iff] at h
    rw [dictOf, List.foldl_append]
    refine wellFormedEntries_insert (h last (by simp)) (ih ?_)
    exact wellFormedEntries_iff.mpr fun entry he => h entry (List.mem_append_left _ he)

theorem str_wellFormed (text : String) : (Json.str text).wellFormed = true := by simp only [Json.wellFormed]

theorem null_wellFormed : Json.null.wellFormed = true := by simp only [Json.wellFormed]

theorem int_wellFormed (fits : intFits n = true) : (Json.int n).wellFormed = true := by
  simpa only [Json.wellFormed] using fits

theorem optionalText_wellFormed (text : Option String) : (optionalText text).wellFormed = true := by
  cases text <;> simp only [optionalText, Json.wellFormed]

theorem arr_map_wellFormed {items : List α} {f : α → Json} (h : ∀ item, (f item).wellFormed = true) :
    (Json.arr (items.map f)).wellFormed = true := by
  simp only [Json.wellFormed, wellFormedItems_iff, List.mem_map]
  rintro _ ⟨item, -, rfl⟩
  exact h item

structure Dict where
  entries : List (String × Json)
  wellFormed : (Json.obj entries).wellFormed = true

namespace Dict

theorem ext {a b : Dict} (h : a.entries = b.entries) : a = b := by
  cases a; cases b; simpa using h

def toJson (d : Dict) : Json := .obj d.entries

theorem toJson_wellFormed (d : Dict) : d.toJson.wellFormed = true := d.wellFormed

theorem toJson_injective : Function.Injective toJson := fun _ _ same => ext (Json.obj.inj same)

/-- `d.get(key)` -/
def get (d : Dict) (key : String) : Option Json := lookup key d.entries

/-- `d[key]`, for reading. -/
def index (d : Dict) (key : String) : Result Json :=
  match d.get key with
  | some value => .ok value
  | none => .error ⟨.keyError, "'" ++ key ++ "'"⟩

/-- `d[key] = value` -/
def set (d : Dict) (key : String) (value : Json) (h : value.wellFormed = true) : Dict :=
  ⟨insert key value d.entries, wellFormed_insert h d.wellFormed⟩

@[simp] theorem get_set_same (d : Dict) (h : value.wellFormed = true) :
    (d.set key value h).get key = some value := lookup_insert_same _

theorem get_set_other (d : Dict) (h : value.wellFormed = true) (apart : other ≠ key) :
    (d.set key value h).get other = d.get other := lookup_insert_other apart

/-- `d.pop(key)`, for what is left. -/
def pop (d : Dict) (key : String) : Dict where
  entries := remove key d.entries
  wellFormed := by
    have h := d.wellFormed
    simp only [Json.wellFormed, Bool.and_eq_true] at h ⊢
    refine ⟨keysAscend_filter _ h.1, wellFormedEntries_iff.mpr fun entry he => ?_⟩
    exact wellFormedEntries_iff.mp h.2 entry (List.mem_filter.mp he).1

theorem get_pop_same (d : Dict) (key : String) : (d.pop key).get key = none :=
  lookup_remove_same key d.entries

theorem get_pop_other (d : Dict) (apart : other ≠ key) : (d.pop key).get other = d.get other :=
  lookup_remove_other apart

theorem ext_get {a b : Dict} (same : ∀ key, a.get key = b.get key) : a = b := by
  have ha := a.wellFormed
  have hb := b.wellFormed
  simp only [Json.wellFormed, Bool.and_eq_true] at ha hb
  exact ext (entries_ext ha.1 hb.1 same)

end Dict

/-- A dict literal with keys that may come in any order. -/
def Dict.ofList (pairs : List (String × Json)) (h : wellFormedEntries pairs = true) : Dict where
  entries := dictOf pairs
  wellFormed := by
    simp only [Json.wellFormed, Bool.and_eq_true]
    exact ⟨keysAscend_dictOf pairs, wellFormedEntries_dictOf h⟩

/-- `isinstance(value, dict)` -/
def Json.asDict : Json → Option Dict
  | .obj entries => if h : (Json.obj entries).wellFormed = true then some ⟨entries, h⟩ else none
  | _ => none

@[simp] theorem Json.asDict_toJson (d : Dict) : d.toJson.asDict = some d := dif_pos d.wellFormed

theorem decimal_length_natOf (h : digitString digits = true) :
    (decimal (natOf digits)).length ≤ digits.length := by
  obtain ⟨nonempty, digit⟩ := digitString_iff.mp h
  have small : ∀ d ∈ digits.reverse.map digitValue, d < 10 := by
    intro d hd
    obtain ⟨c, hc, rfl⟩ := List.mem_map.mp hd
    have bounds := digit c (List.mem_reverse.mp hc)
    simp only [Char.isDigit, Bool.and_eq_true, decide_eq_true_eq] at bounds
    have high : c.toNat ≤ 57 := bounds.2
    unfold digitValue
    omega
  have bound := Nat.ofDigits_lt_base_pow_length (by decide) small
  rw [List.length_map, List.length_reverse] at bound
  unfold decimal
  split
  · exact List.length_pos_iff.mpr nonempty
  · rw [List.length_map, List.length_reverse]
    exact (Nat.digits_length_le_iff (by decide) _).mpr bound

theorem scanDigits_some (h : scanDigits text = some (digits, rest)) : digitString digits = true := by
  unfold scanDigits at h
  split at h
  · cases h
  · rename_i some
    obtain ⟨rfl, -⟩ := Prod.mk.inj (Option.some.inj h)
    refine digitString_iff.mpr ⟨by simpa using some, fun c hc => List.mem_takeWhile_imp hc⟩

theorem scanNumber_whole (h : scanNumber text = some (n, rest)) : digitString n.whole = true := by
  have unsigned (negative : Bool) (text : List Char) (h : scanUnsigned negative text = some (n, rest)) :
      digitString n.whole = true := by
    unfold scanUnsigned at h
    split at h
    · cases h
    · rename_i whole tail scanned
      have same := congrArg (Number.whole ·.1) (Option.some.inj h)
      simp only at same
      rw [← same]
      unfold scanWhole at scanned
      split at scanned
      · cases scanned
      · split at scanned
        · obtain ⟨rfl, -⟩ := Prod.mk.inj (Option.some.inj scanned)
          rfl
        · exact scanDigits_some scanned
  unfold scanNumber at h
  split at h
  · cases h
  · split at h
    · exact unsigned _ _ h
    · exact unsigned _ _ h

theorem readScalar_wellFormed (h : readScalar text = .ok (v, rest)) : v.wellFormed = true := by
  unfold readScalar at h
  split at h
  · rename_i found read
    cases h
    obtain ⟨entry, hentry, eq⟩ := Option.map_eq_some_iff.mp read
    have member := List.mem_of_find?_eq_some hentry
    cases eq
    simp only [constants, List.mem_cons, List.not_mem_nil, or_false] at member
    rcases member with rfl | rfl | rfl | rfl | rfl | rfl <;> simp only [Json.wellFormed]
  · split at h
    · rename_i n tail scanned
      obtain ⟨value, hvalue, eq⟩ := map_ok h
      cases eq
      unfold Number.toJson at hvalue
      split at hvalue
      · unfold intOf at hvalue
        split at hvalue
        · rename_i fits
          cases hvalue
          have short := decimal_length_natOf (scanNumber_whole scanned)
          simp only [Json.wellFormed, intFits, decide_eq_true_eq]
          split <;> simp <;> omega
        · cases hvalue
      · cases hvalue
        simp only [Json.wellFormed]
    · cases h

mutual
theorem readValue_wellFormed : ∀ fuel {text v rest}, readValue fuel text = .ok (v, rest) →
    v.wellFormed = true
  | 0, _, _, _, h => by cases h
  | _ + 1, [], _, _, h => by cases h
  | fuel + 1, c :: rest, v, rest', h => by
    simp only [readValue] at h
    split_ifs at h
    · obtain ⟨r, -, eq⟩ := map_ok h
      cases eq
      simp only [Json.wellFormed]
    · exact readArray_wellFormed fuel h
    · exact readObject_wellFormed fuel h
    · exact readScalar_wellFormed h

theorem readArray_wellFormed : ∀ fuel {text v rest}, readArray fuel text = .ok (v, rest) →
    v.wellFormed = true
  | 0, _, _, _, h => by cases h
  | fuel + 1, text, v, rest, h => by
    simp only [readArray] at h
    split_ifs at h
    · cases h
      simp only [Json.wellFormed, wellFormedItems]
    · obtain ⟨⟨item, tail⟩, first, h⟩ := bind_ok h
      obtain ⟨⟨items, tail'⟩, others, h⟩ := bind_ok h
      cases h
      simp [Json.wellFormed, wellFormedItems, readValue_wellFormed fuel first,
        readItems_wellFormed fuel others]

theorem readItems_wellFormed : ∀ fuel {text items rest}, readItems fuel text = .ok (items, rest) →
    wellFormedItems items = true
  | 0, _, _, _, h => by cases h
  | _ + 1, [], _, _, h => by cases h
  | fuel + 1, c :: text, items, rest, h => by
    simp only [readItems] at h
    split_ifs at h
    · cases h
      simp only [wellFormedItems]
    · obtain ⟨⟨item, tail⟩, first, h⟩ := bind_ok h
      obtain ⟨⟨items, tail'⟩, others, h⟩ := bind_ok h
      cases h
      simp [wellFormedItems, readValue_wellFormed fuel first, readItems_wellFormed fuel others]
    · cases h

theorem readObject_wellFormed : ∀ fuel {text v rest}, readObject fuel text = .ok (v, rest) →
    v.wellFormed = true
  | 0, _, _, _, h => by cases h
  | fuel + 1, text, v, rest, h => by
    simp only [readObject] at h
    split_ifs at h
    · cases h
      simp only [Json.wellFormed, wellFormedEntries, keysAscend, Bool.and_self]
    · obtain ⟨⟨pair, tail⟩, first, h⟩ := bind_ok h
      obtain ⟨⟨pairs, tail'⟩, others, h⟩ := bind_ok h
      cases h
      simp only [Json.wellFormed, Bool.and_eq_true]
      refine ⟨keysAscend_dictOf _, wellFormedEntries_dictOf ?_⟩
      simp [wellFormedEntries, readPair_wellFormed fuel first, readPairs_wellFormed fuel others]

theorem readPair_wellFormed : ∀ fuel {text pair rest}, readPair fuel text = .ok (pair, rest) →
    pair.2.wellFormed = true
  | 0, _, _, _, h => by cases h
  | _ + 1, [], _, _, h => by cases h
  | fuel + 1, c :: text, pair, rest, h => by
    simp only [readPair] at h
    split_ifs at h
    · obtain ⟨⟨key, tail⟩, -, h⟩ := bind_ok h
      split at h
      · cases h
      · split_ifs at h
        · obtain ⟨⟨value, tail'⟩, read, h⟩ := bind_ok h
          cases h
          exact readValue_wellFormed fuel read
        · cases h
    · cases h

theorem readPairs_wellFormed : ∀ fuel {text pairs rest}, readPairs fuel text = .ok (pairs, rest) →
    wellFormedEntries pairs = true
  | 0, _, _, _, h => by cases h
  | _ + 1, [], _, _, h => by cases h
  | fuel + 1, c :: text, pairs, rest, h => by
    simp only [readPairs] at h
    split_ifs at h
    · cases h
      simp only [wellFormedEntries]
    · obtain ⟨⟨pair, tail⟩, first, h⟩ := bind_ok h
      obtain ⟨⟨pairs, tail'⟩, others, h⟩ := bind_ok h
      cases h
      simp [wellFormedEntries, readPair_wellFormed fuel first, readPairs_wellFormed fuel others]
    · cases h
end

/-- `json.loads` builds well-formed values only. -/
theorem loads_wellFormed (h : loads text = .ok v) : v.wellFormed = true := by
  unfold loads at h
  split at h
  · cases h
  · split at h
    · cases h
    · rename_i value rest read
      split at h
      · cases h
        exact readValue_wellFormed _ read
      · cases h

/-- A dict that was read is taken as it is. -/
theorem asDict_loads (h : loads text = .ok (.obj entries)) :
    (Json.obj entries).asDict = some ⟨entries, loads_wellFormed h⟩ := dif_pos _

end Python
