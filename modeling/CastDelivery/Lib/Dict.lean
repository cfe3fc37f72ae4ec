import Mathlib.Data.List.Basic
import Mathlib.Data.List.Nodup

/-!
# Insertion-ordered dictionaries

`Dict κ ν` is a finite map that remembers the order in which its keys were first set, as a
Python `dict` does: setting a key that is present keeps its place, setting a new one adds it
at the end. The keys are distinct by construction. The lemmas read an update back with
`get?`, which is all a client needs.
-/

namespace CastDelivery

/-- A list of key and value pairs with distinct keys. -/
structure Dict (κ ν : Type*) where
  entries : List (κ × ν)
  nodup : (entries.map Prod.fst).Nodup

namespace Dict

variable {κ ν : Type*}

/-- The dictionary without entries. -/
def empty : Dict κ ν := ⟨[], List.nodup_nil⟩

instance : EmptyCollection (Dict κ ν) := ⟨empty⟩

instance : Inhabited (Dict κ ν) := ⟨empty⟩

/-- The keys, oldest first. -/
def keys (d : Dict κ ν) : List κ := d.entries.map Prod.fst

/-- The values, in the order of their keys. -/
def values (d : Dict κ ν) : List ν := d.entries.map Prod.snd

/-- Apply a function to every value. -/
def mapValues {μ : Type*} (d : Dict κ ν) (f : ν → μ) : Dict κ μ :=
  ⟨d.entries.map (fun e => (e.1, f e.2)), by
    rw [List.map_map]
    exact d.nodup⟩

theorem values_mapValues {μ : Type*} (d : Dict κ ν) (f : ν → μ) :
    (d.mapValues f).values = d.values.map f := by
  simp [values, mapValues]

/-- The same dictionary, with an entry at its end. -/
theorem exists_entries_eq_append {d : Dict κ ν} {e : κ × ν} (h : e ∈ d.entries) :
    ∃ (d' : Dict κ ν) (front : List (κ × ν)), d.entries.Perm d'.entries ∧
      d'.entries = front ++ [e] := by
  obtain ⟨front, rest, hsplit⟩ := List.append_of_mem h
  have hperm : d.entries.Perm ((front ++ rest) ++ [e]) := by
    rw [hsplit]
    exact List.perm_middle.trans (List.perm_append_singleton _ _).symm
  have hnodup : (((front ++ rest) ++ [e]).map Prod.fst).Nodup :=
    (hperm.map Prod.fst).nodup_iff.mp d.nodup
  exact ⟨⟨_, hnodup⟩, front ++ rest, hperm, rfl⟩

variable [DecidableEq κ]

/-- `d.get(k)`. -/
def get? (d : Dict κ ν) (k : κ) : Option ν :=
  (d.entries.find? (fun e => e.1 = k)).map Prod.snd

/-- The entries after `d[k] = v`. -/
def setEntries (es : List (κ × ν)) (k : κ) (v : ν) : List (κ × ν) :=
  if k ∈ es.map Prod.fst then es.map (fun e => if e.1 = k then (k, v) else e)
  else es ++ [(k, v)]

theorem map_fst_replace (es : List (κ × ν)) (k : κ) (v : ν) :
    (es.map (fun e => if e.1 = k then (k, v) else e)).map Prod.fst = es.map Prod.fst := by
  rw [List.map_map]
  refine List.map_congr_left fun e _ => ?_
  by_cases h : e.1 = k <;> simp [h]

theorem nodup_setEntries {es : List (κ × ν)} (h : (es.map Prod.fst).Nodup) (k : κ) (v : ν) :
    ((setEntries es k v).map Prod.fst).Nodup := by
  unfold setEntries
  split
  · rw [map_fst_replace]
    exact h
  · next hk =>
    rw [List.map_append, List.nodup_append]
    exact ⟨h, by simp, fun a ha b hb hab => hk (by simp_all)⟩

/-- `d[k] = v`. -/
def set (d : Dict κ ν) (k : κ) (v : ν) : Dict κ ν :=
  ⟨setEntries d.entries k v, nodup_setEntries d.nodup k v⟩

theorem keys_set (d : Dict κ ν) (k : κ) (v : ν) :
    (d.set k v).keys = if k ∈ d.keys then d.keys else d.keys ++ [k] := by
  unfold keys set setEntries
  split
  · exact map_fst_replace d.entries k v
  · simp

/-- `d.pop(k, None)`. -/
def erase (d : Dict κ ν) (k : κ) : Dict κ ν :=
  ⟨d.entries.filter (fun e => e.1 ≠ k), d.nodup.sublist (List.filter_sublist.map _)⟩

theorem keys_erase (d : Dict κ ν) (k : κ) : (d.erase k).keys = d.keys.filter (· ≠ k) := by
  rw [keys, keys, List.filter_map]
  rfl

@[simp] theorem get?_empty (k : κ) : (∅ : Dict κ ν).get? k = none := rfl

/-- Replacing the value of a key is read back at that key only. -/
theorem find?_replace (es : List (κ × ν)) (k k' : κ) (v : ν) :
    ((es.map (fun e => if e.1 = k then (k, v) else e)).find? (fun e => e.1 = k')).map Prod.snd
      = if k' = k ∧ k ∈ es.map Prod.fst then some v
        else (es.find? (fun e => e.1 = k')).map Prod.snd := by
  induction es with
  | nil => simp
  | cons e es ih =>
    rw [List.map_cons, List.find?_cons, List.find?_cons]
    by_cases he : e.1 = k
    · by_cases hk : k' = k
      · simp [he, hk]
      · have hek : ¬ k = k' := fun h => hk h.symm
        simp only [he, hek, if_true, decide_false, ih]
        simp [hk]
    · have hke : ¬ k = e.1 := fun h => he h.symm
      by_cases hk : e.1 = k'
      · have hkk : ¬ k' = k := fun h => he (hk.trans h)
        simp [hk, hkk]
      · simp only [he, hk, if_false, decide_false, ih]
        simp only [List.map_cons, List.mem_cons, hke, false_or]

theorem find?_setEntries (es : List (κ × ν)) (k k' : κ) (v : ν) :
    ((setEntries es k v).find? (fun e => e.1 = k')).map Prod.snd =
      if k' = k then some v else (es.find? (fun e => e.1 = k')).map Prod.snd := by
  unfold setEntries
  split
  · next hk =>
    rw [find?_replace]
    by_cases h : k' = k <;> simp [h, hk]
  · next hk =>
    rw [List.find?_append]
    by_cases h : k' = k
    · subst h
      have hnone : es.find? (fun e => e.1 = k') = none := by
        rw [List.find?_eq_none]
        intro e he hek
        exact hk (List.mem_map.mpr ⟨e, he, by simpa using hek⟩)
      simp [hnone]
    · have hne : ¬ k = k' := fun h' => h h'.symm
      simp [h, hne]

theorem get?_set (d : Dict κ ν) (k k' : κ) (v : ν) :
    (d.set k v).get? k' = if k' = k then some v else d.get? k' :=
  find?_setEntries d.entries k k' v

@[simp] theorem get?_set_self (d : Dict κ ν) (k : κ) (v : ν) : (d.set k v).get? k = some v := by
  rw [get?_set, if_pos rfl]

theorem get?_erase (d : Dict κ ν) (k k' : κ) :
    (d.erase k).get? k' = if k' = k then none else d.get? k' := by
  unfold get? erase
  rw [List.find?_filter]
  by_cases h : k' = k
  · subst h
    simp
  · rw [if_neg h]
    congr 2
    funext e
    by_cases he : e.1 = k' <;> simp [he, h]

theorem get?_mapValues {μ : Type*} (d : Dict κ ν) (f : ν → μ) (k : κ) :
    (d.mapValues f).get? k = (d.get? k).map f := by
  unfold get? mapValues
  rw [List.find?_map, Option.map_map, Option.map_map]
  rfl

/-- A key that is set before the values are replaced is set to the replaced value. -/
theorem mapValues_set {μ : Type*} (d : Dict κ ν) (f : ν → μ) (k : κ) (v : ν) :
    (d.set k v).mapValues f = (d.mapValues f).set k (f v) := by
  have hkeys : (d.entries.map fun e => (e.1, f e.2)).map Prod.fst = d.entries.map Prod.fst := by
    rw [List.map_map]
    rfl
  unfold mapValues set setEntries
  simp only [mk.injEq, hkeys]
  split
  · rw [List.map_map, List.map_map]
    refine List.map_congr_left fun e _ => ?_
    by_cases he : e.1 = k <;> simp [he]
  · rw [List.map_append]
    rfl

theorem get?_eq_some_iff (d : Dict κ ν) (k : κ) (v : ν) :
    d.get? k = some v ↔ (k, v) ∈ d.entries := by
  unfold get?
  constructor
  · intro h
    obtain ⟨e, he, rfl⟩ := Option.map_eq_some_iff.mp h
    have hk : e.1 = k := by simpa using List.find?_some he
    rw [← hk]
    exact List.mem_of_find?_eq_some he
  · intro h
    have hsome : (d.entries.find? (fun e => e.1 = k)).isSome := by
      rw [List.find?_isSome]
      exact ⟨(k, v), h, by simp⟩
    obtain ⟨e, he⟩ := Option.isSome_iff_exists.mp hsome
    have hk : e.1 = k := by simpa using List.find?_some he
    -- the keys are distinct, so the entry found is this one
    have heq : e = (k, v) :=
      List.inj_on_of_nodup_map d.nodup (List.mem_of_find?_eq_some he) h hk
    rw [he, heq]
    rfl

/-- The order of the entries does not matter to what a key reads. -/
theorem get?_eq_of_perm {d d' : Dict κ ν} (h : d.entries.Perm d'.entries) (k : κ) :
    d.get? k = d'.get? k := by
  apply Option.ext
  intro v
  rw [get?_eq_some_iff, get?_eq_some_iff, h.mem_iff]

theorem mem_values (d : Dict κ ν) (v : ν) : v ∈ d.values ↔ ∃ k, d.get? k = some v := by
  simp only [values, List.mem_map, get?_eq_some_iff]
  constructor
  · rintro ⟨⟨k, v'⟩, he, rfl⟩
    exact ⟨k, he⟩
  · rintro ⟨k, he⟩
    exact ⟨(k, v), he, rfl⟩

theorem mem_keys (d : Dict κ ν) (k : κ) : k ∈ d.keys ↔ (d.get? k).isSome = true := by
  simp only [keys, List.mem_map, Option.isSome_iff_exists, get?_eq_some_iff]
  constructor
  · rintro ⟨⟨k', v⟩, he, rfl⟩
    exact ⟨v, he⟩
  · rintro ⟨v, he⟩
    exact ⟨(k, v), he, rfl⟩

theorem mem_keys_set (d : Dict κ ν) (k k' : κ) (v : ν) :
    k' ∈ (d.set k v).keys ↔ k' = k ∨ k' ∈ d.keys := by
  rw [mem_keys, mem_keys, get?_set]
  by_cases h : k' = k <;> simp [h]

/-! ## Setting keys twice -/

theorem setEntries_of_mem {es : List (κ × ν)} {k : κ} (hk : k ∈ es.map Prod.fst) (v : ν) :
    setEntries es k v = es.map fun e => if e.1 = k then (k, v) else e := if_pos hk

theorem setEntries_of_notMem {es : List (κ × ν)} {k : κ} (hk : k ∉ es.map Prod.fst) (v : ν) :
    setEntries es k v = es ++ [(k, v)] := if_neg hk

/-- A key that is there can be set before or after another one. -/
theorem set_comm {d : Dict κ ν} {k k' : κ} (hk : k ∈ d.keys) (hne : k ≠ k') (v v' : ν) :
    (d.set k v).set k' v' = (d.set k' v').set k v := by
  unfold set
  simp only [mk.injEq]
  rw [setEntries_of_mem hk]
  by_cases hk' : k' ∈ d.entries.map Prod.fst
  · rw [setEntries_of_mem hk', setEntries_of_mem (by rw [map_fst_replace]; exact hk'),
      setEntries_of_mem (by rw [map_fst_replace]; exact hk), List.map_map, List.map_map]
    refine List.map_congr_left fun e _ => ?_
    simp only [Function.comp]
    by_cases he : e.1 = k
    · have he' : ¬ e.1 = k' := fun h => hne (he.symm.trans h)
      simp only [he, if_true, if_neg hne]
    · by_cases he' : e.1 = k'
      · simp only [he', if_true, if_neg hne.symm]
      · simp only [if_neg he, if_neg he']
  · rw [setEntries_of_notMem hk', setEntries_of_notMem (by rw [map_fst_replace]; exact hk'),
      setEntries_of_mem (by rw [List.map_append]; exact List.mem_append_left _ hk),
      List.map_append, List.map_singleton, if_neg hne.symm]

theorem set_set (d : Dict κ ν) (k : κ) (v w : ν) : (d.set k v).set k w = d.set k w := by
  unfold set
  simp only [mk.injEq]
  by_cases hk : k ∈ d.entries.map Prod.fst
  · rw [setEntries_of_mem hk, setEntries_of_mem (by rw [map_fst_replace]; exact hk), List.map_map,
      setEntries_of_mem hk]
    refine List.map_congr_left fun e _ => ?_
    simp only [Function.comp]
    by_cases he : e.1 = k <;> simp [he]
  · have hkeep : d.entries.map (fun e => if e.1 = k then (k, w) else e) = d.entries := by
      refine (List.map_congr_left fun e he => if_neg fun h => hk ?_).trans (List.map_id _)
      exact List.mem_map.mpr ⟨e, he, h⟩
    rw [setEntries_of_notMem hk, setEntries_of_mem (by simp), List.map_append, List.map_singleton,
      if_pos rfl, setEntries_of_notMem hk, hkeep]

theorem set_eq_self {d : Dict κ ν} {k : κ} {v : ν} (h : d.get? k = some v) : d.set k v = d := by
  have hmem := (get?_eq_some_iff d k v).mp h
  have hk : k ∈ d.entries.map Prod.fst := List.mem_map.mpr ⟨(k, v), hmem, rfl⟩
  unfold set
  obtain ⟨entries, nodup⟩ := d
  simp only [mk.injEq]
  rw [setEntries_of_mem hk]
  refine (List.map_congr_left fun e he => ?_).trans (List.map_id _)
  -- the keys are distinct, so the entry of this key has this value
  by_cases hek : e.1 = k
  · rw [if_pos hek, List.inj_on_of_nodup_map nodup he hmem hek]
    rfl
  · rw [if_neg hek]
    rfl

/-! ## The place of a key -/

/-- The entries behind a key. -/
def later (d : Dict κ ν) (k : κ) : List (κ × ν) := (d.entries.dropWhile fun e => e.1 ≠ k).tail

theorem setEntries_split (es : List (κ × ν)) (h : (es.map Prod.fst).Nodup) (k : κ) (v : ν) :
    ∃ front, setEntries es k v = front ++ (k, v) :: (es.dropWhile fun e => e.1 ≠ k).tail := by
  induction es with
  | nil => exact ⟨[], rfl⟩
  | cons e es ih =>
    obtain ⟨hnot, hrest⟩ := List.nodup_cons.mp h
    by_cases he : e.1 = k
    · have hkeep : es.map (fun e' => if e'.1 = k then (k, v) else e') = es := by
        refine (List.map_congr_left fun e' he' => if_neg fun hk => hnot ?_).trans (List.map_id _)
        exact List.mem_map.mpr ⟨e', he', hk.trans he.symm⟩
      refine ⟨[], ?_⟩
      rw [setEntries_of_mem (by simp [he]), List.map_cons, if_pos he, hkeep,
        List.dropWhile_cons_of_neg (by simp [he])]
      rfl
    · obtain ⟨front, hfront⟩ := ih hrest
      have hcons : setEntries (e :: es) k v = e :: setEntries es k v := by
        unfold setEntries
        by_cases hk : k ∈ es.map Prod.fst
        · have hk' : k ∈ (e :: es).map Prod.fst := List.mem_cons_of_mem _ hk
          rw [if_pos hk', if_pos hk, List.map_cons, if_neg he]
        · have hk' : k ∉ (e :: es).map Prod.fst := by
            rw [List.map_cons, List.mem_cons, not_or]
            exact ⟨fun h => he h.symm, hk⟩
          rw [if_neg hk', if_neg hk, List.cons_append]
      refine ⟨e :: front, ?_⟩
      rw [hcons, hfront, List.dropWhile_cons_of_pos (by simpa using he)]
      rfl

/-- A key that is set keeps what is behind it. -/
theorem entries_set (d : Dict κ ν) (k : κ) (v : ν) :
    ∃ front, (d.set k v).entries = front ++ (k, v) :: d.later k :=
  setEntries_split d.entries d.nodup k v

/-! ## Loops over a dictionary -/

/-- What a key reads after a loop that erases keys. -/
theorem get?_foldl_erase {α : Type*} (f : α → κ) (as : List α) (d : Dict κ ν) (k : κ) :
    (as.foldl (fun d a => d.erase (f a)) d).get? k
      = if k ∈ as.map f then none else d.get? k := by
  induction as generalizing d with
  | nil => rfl
  | cons a as ih =>
    rw [List.foldl_cons, ih, get?_erase]
    by_cases hrest : k ∈ as.map f
    · simp [hrest]
    · by_cases hk : k = f a <;> simp [hrest, hk]

theorem mem_keys_foldl_erase {α : Type*} (f : α → κ) (as : List α) (d : Dict κ ν) (k : κ) :
    k ∈ (as.foldl (fun d a => d.erase (f a)) d).keys ↔ k ∉ as.map f ∧ k ∈ d.keys := by
  rw [mem_keys, mem_keys, get?_foldl_erase]
  by_cases h : k ∈ as.map f <;> simp [h]

/-- What a key reads after a loop that sets keys. -/
theorem get?_foldl_set {α : Type*} (f : α → κ) (g : α → ν) (as : List α) (d : Dict κ ν) (k : κ)
    (v : ν) :
    (as.foldl (fun d a => d.set (f a) (g a)) d).get? k = some v →
      (∃ a ∈ as, f a = k ∧ g a = v) ∨ k ∉ as.map f ∧ d.get? k = some v := by
  induction as generalizing d with
  | nil => exact fun h => .inr ⟨by simp, h⟩
  | cons a as ih =>
    intro h
    rcases ih _ h with ⟨b, hb, hk, hv⟩ | ⟨hnot, hset⟩
    · exact .inl ⟨b, List.mem_cons_of_mem _ hb, hk, hv⟩
    · rw [get?_set] at hset
      split at hset
      · next hk => exact .inl ⟨a, List.mem_cons_self, hk.symm, Option.some.inj hset⟩
      · next hk => exact .inr ⟨by simpa [hk] using hnot, hset⟩

theorem mem_keys_foldl_set {α : Type*} (f : α → κ) (g : α → ν) (as : List α) (d : Dict κ ν)
    (k : κ) :
    k ∈ (as.foldl (fun d a => d.set (f a) (g a)) d).keys ↔ k ∈ as.map f ∨ k ∈ d.keys := by
  induction as generalizing d with
  | nil => simp
  | cons a as ih =>
    rw [List.foldl_cons, ih, mem_keys_set, List.map_cons, List.mem_cons]
    tauto

/-- A loop keeps what it does not set. -/
theorem get?_foldl_set_of_notMem {α : Type*} {f : α → κ} {g : α → ν} {as : List α} {k : κ}
    (h : k ∉ as.map f) (d : Dict κ ν) :
    (as.foldl (fun d a => d.set (f a) (g a)) d).get? k = d.get? k := by
  induction as generalizing d with
  | nil => rfl
  | cons a as ih =>
    rw [List.map_cons, List.mem_cons, not_or] at h
    rw [List.foldl_cons, ih h.2, get?_set, if_neg h.1]

/-- What a loop sets a key to, if it sets it to nothing else. -/
theorem get?_foldl_set_of_mem {α : Type*} {f : α → κ} {g : α → ν} {as : List α} {a : α}
    (ha : a ∈ as) (honly : ∀ b ∈ as, f b = f a → g b = g a) (d : Dict κ ν) :
    (as.foldl (fun d a => d.set (f a) (g a)) d).get? (f a) = some (g a) := by
  have hkey := (mem_keys_foldl_set f g as d (f a)).mpr (.inl (List.mem_map_of_mem ha))
  rw [mem_keys] at hkey
  obtain ⟨v, hv⟩ := Option.isSome_iff_exists.mp hkey
  rcases get?_foldl_set f g as d (f a) v hv with ⟨b, hb, hfb, hgb⟩ | ⟨hnot, -⟩
  · rw [hv, ← hgb, honly b hb hfb]
  · exact absurd (List.mem_map_of_mem ha) hnot

/-- The last of the pairs with a key wins. -/
theorem get?_foldl_pairs (ps : List (κ × ν)) (d : Dict κ ν) (k : κ) :
    (ps.foldl (fun d p => d.set p.1 p.2) d).get? k =
      ((ps.filter fun p => p.1 = k).getLast?.map Prod.snd).or (d.get? k) := by
  induction ps generalizing d with
  | nil => rfl
  | cons p ps ih =>
    rw [List.foldl_cons, ih, get?_set]
    by_cases hk : p.1 = k
    · rw [if_pos hk.symm, List.filter_cons_of_pos (by simpa using hk)]
      cases hlast : (ps.filter fun p => p.1 = k).getLast? with
      | none =>
        rw [List.getLast?_eq_none_iff.mp hlast]
        rfl
      | some q =>
        rw [List.getLast?_cons, hlast]
        rfl
    · rw [if_neg fun h => hk h.symm, List.filter_cons_of_neg (by simpa using hk)]

/-- Keys that are new and distinct are added in their order. -/
theorem entries_foldl_set {α : Type*} (f : α → κ) (g : α → ν) (as : List α) (d : Dict κ ν)
    (has : (as.map f).Nodup) (hd : ∀ a ∈ as, f a ∉ d.keys) :
    (as.foldl (fun d a => d.set (f a) (g a)) d).entries =
      d.entries ++ as.map fun a => (f a, g a) := by
  induction as generalizing d with
  | nil => simp
  | cons a as ih =>
    rw [List.map_cons, List.nodup_cons] at has
    have hset : (d.set (f a) (g a)).entries = d.entries ++ [(f a, g a)] :=
      setEntries_of_notMem (hd a List.mem_cons_self) (g a)
    rw [List.foldl_cons, ih _ has.2 ?_, hset, List.append_assoc]
    · rfl
    · intro b hb
      rw [mem_keys_set]
      rintro (hab | hkey)
      · exact has.1 (hab ▸ List.mem_map_of_mem hb)
      · exact hd b (List.mem_cons_of_mem _ hb) hkey

/-- Loops of `d.setdefault(k, []).append(v)` list under each key its values, in their order. -/
theorem getD_foldl_append (ps : List (κ × ν)) (d : Dict κ (List ν)) (k : κ) :
    ((ps.foldl (fun d p => d.set p.1 ((d.get? p.1).getD [] ++ [p.2])) d).get? k).getD [] =
      (d.get? k).getD [] ++ (ps.filter fun p => p.1 = k).map Prod.snd := by
  induction ps generalizing d with
  | nil => simp
  | cons p ps ih =>
    rw [List.foldl_cons, ih, get?_set]
    by_cases hk : p.1 = k
    · rw [if_pos hk.symm, List.filter_cons_of_pos (by simpa using hk), hk]
      simp
    · rw [if_neg fun h => hk h.symm, List.filter_cons_of_neg (by simpa using hk)]

/-- `{**d, **extra}`. -/
def update (d extra : Dict κ ν) : Dict κ ν :=
  extra.entries.foldl (fun d entry => d.set entry.1 entry.2) d

theorem get?_foldl_entries (es : List (κ × ν)) (hes : (es.map Prod.fst).Nodup) (d : Dict κ ν)
    (k : κ) :
    (es.foldl (fun d entry => d.set entry.1 entry.2) d).get? k
      = ((es.find? fun e => e.1 = k).map Prod.snd).or (d.get? k) := by
  induction es generalizing d with
  | nil => rfl
  | cons e es ih =>
    obtain ⟨hnot, hrest⟩ := List.nodup_cons.mp hes
    rw [List.foldl_cons, ih hrest, get?_set]
    by_cases hk : k = e.1
    · have hnone : es.find? (fun e' => e'.1 = k) = none := by
        rw [List.find?_eq_none]
        intro e' he' h
        exact hnot (List.mem_map.mpr ⟨e', he', (of_decide_eq_true h).trans hk⟩)
      rw [hnone, if_pos hk, List.find?_cons_of_pos (by simp [hk])]
      rfl
    · rw [if_neg hk, List.find?_cons_of_neg (by simpa using fun h => hk h.symm)]

theorem get?_update (d extra : Dict κ ν) (k : κ) :
    (d.update extra).get? k = (extra.get? k).or (d.get? k) :=
  get?_foldl_entries extra.entries extra.nodup d k

theorem foldl_set_comm (es : List (κ × ν)) {d : Dict κ ν} {k : κ} (hk : k ∈ d.keys) (v : ν)
    (hes : k ∉ es.map Prod.fst) :
    es.foldl (fun d entry => d.set entry.1 entry.2) (d.set k v)
      = (es.foldl (fun d entry => d.set entry.1 entry.2) d).set k v := by
  induction es generalizing d with
  | nil => rfl
  | cons e es ih =>
    obtain ⟨hne, hrest⟩ := not_or.mp (mt List.mem_cons.mpr hes)
    rw [List.foldl_cons, List.foldl_cons, set_comm hk hne]
    exact ih ((mem_keys_set _ _ _ _).mpr (.inr hk)) hrest

/-- A key that is not updated can be set before or after the update. -/
theorem update_set_of_notMem {d extra : Dict κ ν} {k : κ} (hk : k ∈ d.keys)
    (hextra : extra.get? k = none) (v : ν) : (d.set k v).update extra = (d.update extra).set k v :=
  foldl_set_comm extra.entries hk v fun hmem => by
    simpa [hextra] using (mem_keys extra k).mp hmem

theorem foldl_set_of_mem (es : List (κ × ν)) {d : Dict κ ν} {k : κ} (hk : k ∈ d.keys) (v : ν)
    (hes : k ∈ es.map Prod.fst) :
    es.foldl (fun d entry => d.set entry.1 entry.2) (d.set k v)
      = es.foldl (fun d entry => d.set entry.1 entry.2) d := by
  induction es generalizing d with
  | nil => cases hes
  | cons e es ih =>
    rw [List.foldl_cons, List.foldl_cons]
    by_cases hke : k = e.1
    · rw [hke, set_set]
    · rw [set_comm hk hke]
      exact ih ((mem_keys_set _ _ _ _).mpr (.inr hk)) (by simpa [hke] using hes)

/-- What a key was before it is updated makes no difference. -/
theorem update_set_of_mem {d extra : Dict κ ν} {k : κ} {w : ν} (hk : k ∈ d.keys)
    (hextra : extra.get? k = some w) (v : ν) : (d.set k v).update extra = d.update extra :=
  foldl_set_of_mem extra.entries hk v ((mem_keys extra k).mpr (by rw [hextra]; rfl))

end Dict
end CastDelivery
