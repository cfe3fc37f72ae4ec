import CastDelivery.Issues.Basic
import CastDelivery.Urls

/-!
# The stored overrides

`url_overrides` reads the overrides from the options of the entry. They are stored under text, and
every text that `UUID` accepts names a device: two of them may name the same one, and then the
entry that was stored last is in effect.
-/

namespace CastDelivery

/-! ## `url_overrides` -/

/-- One turn of the loop in `url_overrides`, unless it goes on with the next. -/
def readOverride (stored : String × String) : Option (UUID × String) :=
  (UUID.parse stored.1).bind fun uuid => (normalizeOverride stored.2).map fun base => (uuid, base)

/-- `url_overrides`, of the overrides in the options. -/
def urlOverrides (raw : Dict String String) : Dict UUID String :=
  (raw.entries.filterMap readOverride).foldl (fun overrides o => overrides.set o.1 o.2) ∅

/-- The base that a stored entry gives to a device. -/
def readingOf (uuid : UUID) (stored : String × String) : Option String :=
  if UUID.parse stored.1 = some uuid then normalizeOverride stored.2 else none

/-- The bases that stored entries give to a device. -/
def readings (uuid : UUID) (entries : List (String × String)) : List String :=
  entries.filterMap (readingOf uuid)

section

variable {uuid : UUID} {base : String} {entries : List (String × String)}

theorem filter_readOverride (uuid : UUID) (entries : List (String × String)) :
    ((entries.filterMap readOverride).filter fun o => o.1 = uuid).map Prod.snd =
      readings uuid entries := by
  induction entries with
  | nil => rfl
  | cons stored entries ih =>
    unfold readings at ih ⊢
    unfold readOverride at ih ⊢
    unfold readingOf at ih ⊢
    cases hu : UUID.parse stored.1 with
    | none =>
      rw [List.filterMap_cons_none (by rw [hu]; rfl),
        List.filterMap_cons_none (by rw [hu]; rfl), ih]
    | some u =>
      cases hb : normalizeOverride stored.2 with
      | none =>
        rw [List.filterMap_cons_none (by rw [hu, hb]; rfl),
          List.filterMap_cons_none (by rw [hb, ite_self]), ih]
      | some b =>
        rw [List.filterMap_cons_some (by rw [hu, hb]; rfl)]
        by_cases hsame : u = uuid
        · rw [List.filter_cons_of_pos (by simpa using hsame), List.map_cons, ih,
            List.filterMap_cons_some (by rw [hu, if_pos (congrArg some hsame), hb])]
        · rw [List.filter_cons_of_neg (by simpa using hsame), ih,
            List.filterMap_cons_none
              (by rw [hu, if_neg fun h => hsame (Option.some.inj h)])]

/-- The last base that the stored entries give to a device is in effect. -/
theorem get?_urlOverrides (raw : Dict String String) (uuid : UUID) :
    (urlOverrides raw).get? uuid = (readings uuid raw.entries).getLast? := by
  unfold urlOverrides
  rw [Dict.get?_foldl_pairs, Dict.get?_empty, Option.or_none, ← List.getLast?_map,
    filter_readOverride]

end

end CastDelivery
