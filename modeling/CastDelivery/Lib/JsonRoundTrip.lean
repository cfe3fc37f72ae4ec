import CastDelivery.Lib.JsonNumeral

/-!
# JSON texts are read back

`loads_dumps`: what `json.loads` returned, or could have, is read again from what `json.dumps`
writes for it. `forall_mem_dumps`: which characters that text is of.
-/

namespace CastDelivery
namespace JsonText

variable {floats : FloatRepr}

/-! ## Strings -/

theorem hexValue_hexDigit : ∀ n < 16, hexValue (hexDigit n) = some n := by decide

theorem scanUnits_cons {c : ℕ} (hquote : c ≠ 34) (hbackslash : c ≠ 92) (hcontrol : ¬ c < 32)
    (text : PyStr) :
    scanUnits (c :: text) =
      (scanUnits text).map fun result => ((c, false) :: result.1, result.2) := by
  conv_lhs => unfold scanUnits
  simp only [if_neg hquote, if_neg hbackslash, if_neg hcontrol]

theorem scanUnits_quote (text : PyStr) : scanUnits (34 :: text) = some ([], text) := by
  conv_lhs => unfold scanUnits
  rfl

/-- An escaped character is read back; it is written as a number only if it is a control
character. -/
theorem scanUnits_escape (c : ℕ) (text : PyStr) :
    ∃ written : Bool, (written = true → c < 32) ∧
      scanUnits (escape c ++ text) =
        (scanUnits text).map fun result => ((c, written) :: result.1, result.2) := by
  unfold escape
  split
  · next h =>
    refine ⟨false, nofun, ?_⟩
    rcases h with rfl | rfl <;> rfl
  split
  · next h =>
    obtain rfl := h
    exact ⟨false, nofun, rfl⟩
  split
  · next h =>
    obtain rfl := h
    exact ⟨false, nofun, rfl⟩
  split
  · next h =>
    obtain rfl := h
    exact ⟨false, nofun, rfl⟩
  split
  · next h =>
    obtain rfl := h
    exact ⟨false, nofun, rfl⟩
  split
  · next h =>
    obtain rfl := h
    exact ⟨false, nofun, rfl⟩
  split
  · next hcontrol =>
    refine ⟨true, fun _ => hcontrol, ?_⟩
    have hvalue : hexValue4 48 48 (hexDigit (c / 16)) (hexDigit (c % 16)) = some c := by
      have hzero : hexValue 48 = some 0 := rfl
      unfold hexValue4
      rw [hzero, hexValue_hexDigit _ (by omega), hexValue_hexDigit _ (by omega)]
      simp only [Option.bind_some, Option.map_some, Option.some.injEq]
      omega
    show (hexValue4 48 48 (hexDigit (c / 16)) (hexDigit (c % 16))).bind _ = _
    rw [hvalue]
    rfl
  · next hquote _ _ _ _ _ hcontrol =>
    refine ⟨false, nofun, ?_⟩
    obtain ⟨hquote, hbackslash⟩ := not_or.mp hquote
    exact scanUnits_cons hquote hbackslash hcontrol text

theorem scanUnits_flatMap (text rest : PyStr) :
    ∃ units : List (ℕ × Bool), units.map Prod.fst = text ∧
      (∀ unit ∈ units, unit.2 = true → unit.1 < 32) ∧
      scanUnits (text.flatMap escape ++ 34 :: rest) = some (units, rest) := by
  induction text with
  | nil => exact ⟨[], rfl, nofun, scanUnits_quote rest⟩
  | cons c text ih =>
    obtain ⟨units, hunits, hwritten, hscan⟩ := ih
    obtain ⟨written, hcontrol, hescape⟩ := scanUnits_escape c (text.flatMap escape ++ 34 :: rest)
    refine ⟨(c, written) :: units, congrArg _ hunits, List.forall_mem_cons.mpr ⟨hcontrol, hwritten⟩,
      ?_⟩
    rw [List.flatMap_cons, List.append_assoc, hescape, hscan]
    rfl

/-- Without surrogates that were written as numbers there is nothing to join. -/
theorem joinSurrogates_eq {units : List (ℕ × Bool)}
    (h : ∀ unit ∈ units, unit.2 = true → unit.1 < 32) :
    joinSurrogates units = units.map Prod.fst := by
  induction units using joinSurrogates.induct with
  | case1 => rfl
  | case2 unit => rfl
  | case3 high low units hsurrogates ih =>
    have hhigh := h high List.mem_cons_self hsurrogates.1
    omega
  | case4 high low units hnone ih =>
    rw [joinSurrogates, if_neg hnone, ih fun unit hunit => h unit (List.mem_cons_of_mem _ hunit)]
    rfl

/-- A string is read back. -/
theorem scanString_flatMap (text rest : PyStr) :
    scanString (text.flatMap escape ++ 34 :: rest) = some (text, rest) := by
  obtain ⟨units, hunits, hwritten, hscan⟩ := scanUnits_flatMap text rest
  unfold scanString
  rw [hscan, Option.map_some, joinSurrogates_eq hwritten, hunits]

/-! ## Values -/

/-- What `json.loads` may return: a number has a numeral, and no key is there twice. -/
inductive Loadable (floats : FloatRepr) : Value → Prop
  | null : Loadable floats .null
  | bool (value : Bool) : Loadable floats (.bool value)
  | number {numeral : PyStr} (h : Numeral floats numeral) : Loadable floats (.number numeral)
  | str (text : PyStr) : Loadable floats (.str text)
  | arr {items : List Value} (h : ∀ item ∈ items, Loadable floats item) :
      Loadable floats (.arr items)
  | obj {members : List (PyStr × Value)} (hkeys : (members.map Prod.fst).Nodup)
      (h : ∀ member ∈ members, Loadable floats member.2) : Loadable floats (.obj members)

theorem skip_cons {c : ℕ} (h : isBlank c = false) (text : PyStr) : skip (c :: text) = c :: text :=
  List.dropWhile_cons_of_neg (by simp [h])

theorem skip_newline (depth : ℕ) (text : PyStr) : skip (newline depth ++ text) = skip text := by
  have hspaces : ∀ n, skip (List.replicate n 32 ++ text) = skip text := by
    intro n
    induction n with
    | zero => rfl
    | succ n ih => exact ih
  exact hspaces (2 * depth)

/-- The text of a value begins with a character that ends nothing. -/
theorem exists_cons_dump {value : Value} (h : Loadable floats value) (depth : ℕ) :
    ∃ c text, dump depth value = c :: text ∧ isBlank c = false ∧ c ≠ 93 ∧ c ≠ 125 ∧
      c ≠ 0xFEFF := by
  cases h with
  | null => exact ⟨110, _, rfl, by decide⟩
  | bool value =>
    cases value with
    | true => exact ⟨116, _, rfl, by decide⟩
    | false => exact ⟨102, _, rfl, by decide⟩
  | number h =>
    obtain ⟨c, text, hcons, hc⟩ := h.exists_cons
    have hplain := (h.plain c (hcons ▸ List.mem_cons_self)).1
    simp only [List.mem_cons, List.not_mem_nil, or_false, not_or] at hc
    refine ⟨c, text, hcons, ?_, hc.2.2.2.2.2.2.1, hc.2.2.2.2.2.2.2.2, by omega⟩
    simp [isBlank, hc]
  | str text => exact ⟨34, _, rfl, by decide⟩
  | @arr items h =>
    cases items with
    | nil => exact ⟨91, _, rfl, by decide⟩
    | cons item items => exact ⟨91, _, by rw [dump], by decide⟩
  | @obj members hkeys h =>
    cases members with
    | nil => exact ⟨123, _, rfl, by decide⟩
    | cons member members => exact ⟨123, _, by rw [dump], by decide⟩

/-- A value does not begin with a blank. -/
theorem skip_dump {value : Value} (h : Loadable floats value) (depth : ℕ) (rest : PyStr) :
    skip (dump depth value ++ rest) = dump depth value ++ rest := by
  obtain ⟨c, text, hcons, hblank, -⟩ := exists_cons_dump h depth
  rw [hcons]
  exact skip_cons hblank _

theorem skip_dumpMember (depth : ℕ) (member : PyStr × Value) (rest : PyStr) :
    skip (dumpMember depth member ++ rest) = dumpMember depth member ++ rest := by
  cases member
  rfl

theorem notMem_keys {key : PyStr} {value : Value} {before members : List (PyStr × Value)}
    (h : ((before ++ (key, value) :: members).map Prod.fst).Nodup) : key ∉ before.map Prod.fst := by
  rw [List.map_append, List.map_cons] at h
  exact fun hmem => List.disjoint_of_nodup_append h hmem List.mem_cons_self

/-- A value is read back wherever its text stands. -/
def ReadsBack (floats : FloatRepr) (value : Value) : Prop :=
  ∀ (depth fuel : ℕ) (rest : PyStr), Follows rest → (dump depth value).length ≤ fuel →
    scanValue floats fuel (dump depth value ++ rest) = some (value, rest)

theorem scanItems_dump {item : Value} {items : List Value}
    (h : ∀ item' ∈ item :: items, Loadable floats item' ∧ ReadsBack floats item')
    (depth fuel : ℕ) (rest : PyStr)
    (hfuel : (dump (depth + 1) item).length + (dumpItems (depth + 1) items).length < fuel) :
    scanItems floats fuel (dump (depth + 1) item ++ (dumpItems (depth + 1) items ++
      (newline depth ++ 93 :: rest))) = some (item :: items, rest) := by
  induction items generalizing item fuel with
  | nil =>
    obtain ⟨fuel, rfl⟩ := Nat.exists_eq_add_one.mpr (Nat.zero_lt_of_lt hfuel)
    -- the bracket behind the last item
    have hitem := (h item List.mem_cons_self).2 (depth + 1) fuel (newline depth ++ 93 :: rest)
      (follows_cons (.inr rfl)) (by omega)
    have hend : skip (newline depth ++ 93 :: rest) = 93 :: rest := by
      rw [skip_newline]
      rfl
    rw [dumpItems, List.nil_append, scanItems, hitem, Option.bind_some]
    simp only [hend, if_true]
  | cons next items ih =>
    obtain ⟨fuel, rfl⟩ := Nat.exists_eq_add_one.mpr (Nat.zero_lt_of_lt hfuel)
    simp only [dumpItems, List.length_cons, List.length_append] at hfuel
    have hrest := ih (fun item' hitem' => h item' (List.mem_cons_of_mem _ hitem')) fuel
      (by omega)
    -- a comma, and the next item on a line of its own
    have hnext := skip_dump (h next (List.mem_cons_of_mem _ List.mem_cons_self)).1 (depth + 1)
    have hitem := (h item List.mem_cons_self).2 (depth + 1) fuel
      (44 :: (newline (depth + 1) ++ (dump (depth + 1) next ++ (dumpItems (depth + 1) items ++
        (newline depth ++ 93 :: rest))))) (follows_cons (.inl rfl)) (by omega)
    have hcomma : ∀ text, skip (44 :: text) = 44 :: text := fun _ => rfl
    rw [dumpItems, scanItems]
    simp only [List.cons_append, List.append_assoc, hitem, Option.bind_some, hcomma, skip_newline,
      hnext, hrest]
    rfl

theorem scanKey_dumpString (key text : PyStr) :
    scanKey (dumpString key ++ 58 :: 32 :: text) = some (key, skip text) := by
  have hquote : dumpString key ++ 58 :: 32 :: text =
      34 :: (key.flatMap escape ++ 34 :: 58 :: 32 :: text) := by simp [dumpString]
  rw [hquote, scanKey, if_pos rfl, scanString_flatMap]
  rfl

theorem scanMembers_dump (before : List (PyStr × Value)) {member : PyStr × Value}
    {members : List (PyStr × Value)}
    (hkeys : ((before ++ member :: members).map Prod.fst).Nodup)
    (h : ∀ member' ∈ member :: members, Loadable floats member'.2 ∧ ReadsBack floats member'.2)
    (depth fuel : ℕ) (rest : PyStr)
    (hfuel : (dumpMember (depth + 1) member).length +
      (dumpMembers (depth + 1) members).length < fuel) :
    scanMembers floats fuel before (dumpMember (depth + 1) member ++
      (dumpMembers (depth + 1) members ++ (newline depth ++ 125 :: rest))) =
        some (before ++ member :: members, rest) := by
  induction members generalizing before member fuel with
  | nil =>
    obtain ⟨key, value⟩ := member
    obtain ⟨fuel, rfl⟩ := Nat.exists_eq_add_one.mpr (Nat.zero_lt_of_lt hfuel)
    simp only [dumpMember, List.length_append, List.length_cons] at hfuel
    obtain ⟨hloadable, hreads⟩ := h (key, value) List.mem_cons_self
    have hbound : (dump (depth + 1) value).length ≤ fuel := by omega
    -- the brace behind the last member
    have hvalue := hreads (depth + 1) fuel (newline depth ++ 125 :: rest)
      (follows_cons (.inr rfl)) hbound
    have hend : skip (newline depth ++ 125 :: rest) = 125 :: rest := by
      rw [skip_newline]
      rfl
    rw [dumpMembers, List.nil_append, dumpMember, scanMembers, List.append_assoc,
      List.cons_append, List.cons_append, scanKey_dumpString, skip_dump hloadable]
    simp only [Option.bind_some, hvalue, hend, if_true,
      Dict.setEntries_of_notMem (notMem_keys hkeys)]
  | cons next members ih =>
    obtain ⟨key, value⟩ := member
    obtain ⟨fuel, rfl⟩ := Nat.exists_eq_add_one.mpr (Nat.zero_lt_of_lt hfuel)
    simp only [dumpMember, dumpMembers, List.length_append, List.length_cons] at hfuel
    obtain ⟨hloadable, hreads⟩ := h (key, value) List.mem_cons_self
    -- the member is appended to those that were read, since its key is new
    have hlater : ((before ++ [(key, value)] ++ next :: members).map Prod.fst).Nodup := by
      rw [List.append_assoc]
      exact hkeys
    have hrest := ih _ hlater (fun member' hmember' => h member' (List.mem_cons_of_mem _ hmember'))
      fuel (by omega)
    have hbound : (dump (depth + 1) value).length ≤ fuel := by omega
    have hvalue := hreads (depth + 1) fuel (44 :: (newline (depth + 1) ++
      (dumpMember (depth + 1) next ++ (dumpMembers (depth + 1) members ++
        (newline depth ++ 125 :: rest))))) (follows_cons (.inl rfl)) hbound
    have hcomma : ∀ text, skip (44 :: text) = 44 :: text := fun _ => rfl
    have hmember : dumpMember (depth + 1) (key, value) =
        dumpString key ++ 58 :: 32 :: dump (depth + 1) value := rfl
    rw [dumpMembers, hmember, scanMembers, List.append_assoc, List.cons_append, List.cons_append,
      scanKey_dumpString, skip_dump hloadable]
    simp only [List.cons_append, List.append_assoc, hvalue, Option.bind_some, hcomma, skip_newline,
      skip_dumpMember, Dict.setEntries_of_notMem (notMem_keys hkeys)]
    rw [List.append_assoc] at hrest
    exact hrest

theorem scanValue_scalar {c : ℕ} (hquote : c ≠ 34) (harr : c ≠ 91) (hobj : c ≠ 123) (fuel : ℕ)
    (text : PyStr) : scanValue floats (fuel + 1) (c :: text) = scanScalar floats (c :: text) := by
  rw [scanValue, if_neg hquote, if_neg harr, if_neg hobj]

theorem exists_fuel {value : Value} (h : Loadable floats value) {depth fuel : ℕ}
    (hfuel : (dump depth value).length ≤ fuel) : ∃ n, fuel = n + 1 := by
  obtain ⟨c, text, hcons, -⟩ := exists_cons_dump h depth
  rw [hcons, List.length_cons] at hfuel
  exact Nat.exists_eq_add_one.mpr (by omega)

/-- A value that `json.loads` may return is read back. -/
theorem readsBack {value : Value} (h : Loadable floats value) : ReadsBack floats value := by
  induction h with
  | null =>
    intro depth fuel rest hrest hfuel
    have hvalue : Loadable floats .null := .null
    obtain ⟨fuel, rfl⟩ := exists_fuel hvalue hfuel
    rfl
  | bool value =>
    intro depth fuel rest hrest hfuel
    have hvalue : Loadable floats (.bool value) := .bool value
    obtain ⟨fuel, rfl⟩ := exists_fuel hvalue hfuel
    cases value <;> rfl
  | @number numeral h =>
    intro depth fuel rest hrest hfuel
    obtain ⟨fuel, rfl⟩ := exists_fuel (Loadable.number h) hfuel
    have hscan := scanScalar_append hrest h
    obtain ⟨c, text, hcons, hc⟩ := h.exists_cons
    simp only [List.mem_cons, List.not_mem_nil, or_false, not_or] at hc
    subst hcons
    rw [dump, List.cons_append, scanValue_scalar hc.2.2.2.2.1 hc.2.2.2.2.2.1 hc.2.2.2.2.2.2.2.1]
    exact hscan
  | str text =>
    intro depth fuel rest hrest hfuel
    have hvalue : Loadable floats (.str text) := .str text
    obtain ⟨fuel, rfl⟩ := exists_fuel hvalue hfuel
    have hquote : dumpString text ++ rest = 34 :: (text.flatMap escape ++ 34 :: rest) := by
      simp [dumpString]
    rw [dump, hquote, scanValue, if_pos rfl, scanString_flatMap]
    rfl
  | @arr items h ih =>
    intro depth fuel rest hrest hfuel
    obtain ⟨fuel, rfl⟩ := exists_fuel (Loadable.arr h) hfuel
    cases items with
    | nil => rfl
    | cons item items =>
      rw [dump] at hfuel ⊢
      simp only [List.length_cons, List.length_append] at hfuel
      have hloadable := h item List.mem_cons_self
      obtain ⟨c, text, hcons, -, hc, -⟩ := exists_cons_dump hloadable (depth + 1)
      have hitems := scanItems_dump (fun item' hitem' => ⟨h item' hitem', ih item' hitem'⟩) depth
        fuel rest (by omega)
      simp only [List.cons_append, List.append_assoc, List.nil_append]
      have hhead : ∀ rest, (dump (depth + 1) item ++ rest).head? ≠ some 93 := by
        intro rest
        rw [hcons]
        exact fun hhead => hc (Option.some.inj hhead)
      rw [scanValue, if_neg (by decide), if_pos rfl, skip_newline, skip_dump hloadable,
        if_neg (hhead _), hitems]
      rfl
  | @obj members hkeys h ih =>
    intro depth fuel rest hrest hfuel
    obtain ⟨fuel, rfl⟩ := exists_fuel (Loadable.obj hkeys h) hfuel
    cases members with
    | nil => rfl
    | cons member members =>
      rw [dump] at hfuel ⊢
      simp only [List.length_cons, List.length_append] at hfuel
      have hmembers := scanMembers_dump [] hkeys
        (fun member' hmember' => ⟨h member' hmember', ih member' hmember'⟩) depth fuel rest
        (by omega)
      simp only [List.cons_append, List.append_assoc, List.nil_append] at hmembers ⊢
      have hhead : ∀ rest, (dumpMember (depth + 1) member ++ rest).head? ≠ some 125 := by
        intro rest hhead
        cases member
        cases hhead
      rw [scanValue, if_neg (by decide), if_neg (by decide), if_pos rfl, skip_newline,
        skip_dumpMember, if_neg (hhead _), hmembers]
      rfl

/-- **What is written is read again**, with a line feed behind it. -/
theorem loads_dumps {value : Value} (h : Loadable floats value) :
    loads floats (dumps value ++ [10]) = some value := by
  obtain ⟨c, text, hcons, -, -, -, hmark⟩ := exists_cons_dump h 0
  have hskip : skip (dumps value ++ [10]) = dumps value ++ [10] := skip_dump h 0 [10]
  have hread : scanValue floats (dumps value ++ [10]).length (dumps value ++ [10]) =
      some (value, [10]) :=
    readsBack h 0 _ [10] (follows_cons (.inr rfl)) (by simp [dumps])
  have hhead : (dumps value ++ [10]).head? ≠ some 0xFEFF := by
    unfold dumps
    rw [hcons]
    exact fun hhead => hmark (Option.some.inj hhead)
  unfold loads
  rw [if_neg hhead, hskip, hread]
  rfl

/-! ## What is read can be written -/

theorem loadable_of_scanScalar {text rest : PyStr} {value : Value}
    (h : scanScalar floats text = some (value, rest)) : Loadable floats value := by
  rcases scanScalar_eq_some h with hnumber | ⟨word, hword, -, hvalue⟩
  · obtain ⟨numeral, rfl, hnumeral⟩ := exists_numeral hnumber
    exact .number hnumeral
  · cases value with
    | null => exact .null
    | bool value => exact .bool value
    | number numeral => exact .number (numeral_of_scanScalar h)
    | str text => exact .str text
    | arr items =>
      simp only [words, List.mem_cons, List.not_mem_nil, or_false] at hword
      rcases hword with rfl | rfl | rfl | rfl | rfl | rfl <;> cases hvalue
    | obj members =>
      simp only [words, List.mem_cons, List.not_mem_nil, or_false] at hword
      rcases hword with rfl | rfl | rfl | rfl | rfl | rfl <;> cases hvalue

/-- A key that is set keeps a `dict` one. -/
theorem Loadable.set {members : List (PyStr × Value)} {value : Value}
    (h : Loadable floats (.obj members)) (key : PyStr) (hvalue : Loadable floats value) :
    Loadable floats (.obj (Dict.setEntries members key value)) := by
  cases h with
  | obj hkeys hmembers =>
    refine .obj (Dict.nodup_setEntries hkeys key value) fun member hmember => ?_
    unfold Dict.setEntries at hmember
    split at hmember
    · obtain ⟨old, hold, rfl⟩ := List.mem_map.mp hmember
      split
      · exact hvalue
      · exact hmembers old hold
    · rcases List.mem_append.mp hmember with hmember | hmember
      · exact hmembers member hmember
      · rw [List.mem_singleton.mp hmember]
        exact hvalue

theorem loadable_of_scan (fuel : ℕ) :
    (∀ text value rest, scanValue floats fuel text = some (value, rest) →
      Loadable floats value) ∧
    (∀ text items rest, scanItems floats fuel text = some (items, rest) →
      ∀ item ∈ items, Loadable floats item) ∧
    (∀ before text members rest, scanMembers floats fuel before text = some (members, rest) →
      Loadable floats (.obj before) → Loadable floats (.obj members)) := by
  induction fuel with
  | zero =>
    refine ⟨?_, ?_, ?_⟩
    · intro text value rest h
      simp [scanValue] at h
    · intro text items rest h
      simp [scanItems] at h
    · intro before text members rest h
      simp [scanMembers] at h
  | succ fuel ih =>
    obtain ⟨hvalue, hitems, hmembers⟩ := ih
    refine ⟨?_, ?_, ?_⟩
    · intro text value rest h
      cases text with
      | nil => simp [scanValue] at h
      | cons c text =>
        rw [scanValue] at h
        -- the first character says what is read: a string, an array, an object or a scalar
        split at h
        · obtain ⟨string, -, heq⟩ := Option.map_eq_some_iff.mp h
          cases heq
          exact .str _
        split at h
        · split at h
          · cases h
            exact .arr nofun
          · obtain ⟨⟨items, behind⟩, hscan, heq⟩ := Option.map_eq_some_iff.mp h
            cases heq
            exact .arr (hitems _ _ _ hscan)
        split at h
        · split at h
          · cases h
            exact .obj List.nodup_nil nofun
          · obtain ⟨⟨members, behind⟩, hscan, heq⟩ := Option.map_eq_some_iff.mp h
            cases heq
            exact hmembers _ _ _ _ hscan (.obj List.nodup_nil nofun)
        · exact loadable_of_scanScalar h
    · intro text items rest h
      rw [scanItems] at h
      obtain ⟨⟨item, behind⟩, hscan, h⟩ := Option.bind_eq_some_iff.mp h
      have hitem := hvalue _ _ _ hscan
      simp only at h
      split at h
      · cases h
      · split at h
        · cases h
          exact List.forall_mem_singleton.mpr hitem
        · split at h
          · obtain ⟨⟨later, end'⟩, hlater, heq⟩ := Option.map_eq_some_iff.mp h
            cases heq
            exact List.forall_mem_cons.mpr ⟨hitem, hitems _ _ _ hlater⟩
          · cases h
    · intro before text members rest h hbefore
      rw [scanMembers] at h
      obtain ⟨⟨key, behind⟩, hkey, h⟩ := Option.bind_eq_some_iff.mp h
      obtain ⟨⟨value, behind'⟩, hscan, h⟩ := Option.bind_eq_some_iff.mp h
      -- a key that is there already is overwritten, so that none is there twice
      have hset := hbefore.set key (hvalue _ _ _ hscan)
      simp only at h
      split at h
      · cases h
      · split at h
        · cases h
          exact hset
        · split at h
          · exact hmembers _ _ _ _ h hset
          · cases h

/-- What `json.loads` returned it may return. -/
theorem loadable_of_loads {text : PyStr} {value : Value} (h : loads floats text = some value) :
    Loadable floats value := by
  unfold loads at h
  split at h
  · cases h
  · obtain ⟨⟨value', rest⟩, hscan, h⟩ := Option.bind_eq_some_iff.mp h
    split at h
    · cases h
      exact (loadable_of_scan _).1 _ _ _ hscan
    · cases h

/-! ## The characters of what is written -/

mutual

/-- The strings of a value, keys among them. -/
def texts : Value → List PyStr
  | .str text => [text]
  | .arr items => textsOfItems items
  | .obj members => textsOfMembers members
  | _ => []

def textsOfItems : List Value → List PyStr
  | [] => []
  | item :: items => texts item ++ textsOfItems items

def textsOfMember : PyStr × Value → List PyStr
  | (key, value) => key :: texts value

def textsOfMembers : List (PyStr × Value) → List PyStr
  | [] => []
  | member :: members => textsOfMember member ++ textsOfMembers members

end

section

variable {P : ℕ → Prop} (hplain : ∀ c, c < 128 → c ≠ 13 → P c)

include hplain

theorem forall_mem_escape (c : ℕ) : (∀ d ∈ escape c, P d) ↔ (32 ≤ c → P c) := by
  unfold escape
  split
  · next h =>
    have hc : P c := hplain c (by omega) (by omega)
    simp [hc, hplain 92 (by decide) (by decide)]
  iterate 5
    split
    · next h =>
      subst h
      simp [hplain]
  split
  · next h =>
    have hhigh : P (hexDigit (c / 16)) := hplain _ (by unfold hexDigit; split <;> omega)
      (by unfold hexDigit; split <;> omega)
    have hlow : P (hexDigit (c % 16)) := hplain _ (by unfold hexDigit; split <;> omega)
      (by unfold hexDigit; split <;> omega)
    have hc : ¬ 32 ≤ c := by omega
    simp [hplain, hhigh, hlow, hc]
  · next h =>
    have hc : 32 ≤ c := by omega
    simp [hc]

theorem forall_mem_dumpString (text : PyStr) :
    (∀ c ∈ dumpString text, P c) ↔ ∀ c ∈ text, 32 ≤ c → P c := by
  have hquote := hplain 34 (by decide) (by decide)
  simp only [dumpString, List.forall_mem_cons, List.forall_mem_append, List.mem_flatMap,
    List.not_mem_nil, false_imp_iff, implies_true, and_true, hquote, true_and]
  constructor
  · intro h c hc
    exact (forall_mem_escape hplain c).mp fun d hd => h d ⟨c, hc, hd⟩
  · rintro h d ⟨c, hc, hd⟩
    exact (forall_mem_escape hplain c).mpr (h c hc) d hd

theorem forall_mem_newline (depth : ℕ) : ∀ c ∈ newline depth, P c := by
  intro c hc
  rcases List.mem_cons.mp hc with rfl | hc
  · exact hplain 10 (by decide) (by decide)
  · rw [List.eq_of_mem_replicate hc]
    exact hplain 32 (by decide) (by decide)

theorem forall_mem_dumpItems {items : List Value} {depth : ℕ}
    (h : ∀ item ∈ items, (∀ c ∈ dump depth item, P c) ↔
      ∀ text ∈ texts item, ∀ c ∈ text, 32 ≤ c → P c) :
    (∀ c ∈ dumpItems depth items, P c) ↔
      ∀ text ∈ textsOfItems items, ∀ c ∈ text, 32 ≤ c → P c := by
  induction items with
  | nil => simp [dumpItems, textsOfItems]
  | cons item items ih =>
    have hrest := ih fun item' hitem' => h item' (List.mem_cons_of_mem _ hitem')
    have hnewline := forall_mem_newline hplain depth
    simp only [dumpItems, textsOfItems, List.forall_mem_cons, List.forall_mem_append,
      h item List.mem_cons_self, hrest, hplain 44 (by decide) (by decide), true_and]
    exact and_iff_right hnewline

theorem forall_mem_dumpMember {member : PyStr × Value} {depth : ℕ}
    (h : (∀ c ∈ dump depth member.2, P c) ↔
      ∀ text ∈ texts member.2, ∀ c ∈ text, 32 ≤ c → P c) :
    (∀ c ∈ dumpMember depth member, P c) ↔
      ∀ text ∈ textsOfMember member, ∀ c ∈ text, 32 ≤ c → P c := by
  obtain ⟨key, value⟩ := member
  simp only [dumpMember, textsOfMember, List.forall_mem_cons, List.forall_mem_append,
    forall_mem_dumpString hplain key, h, hplain 58 (by decide) (by decide),
    hplain 32 (by decide) (by decide), true_and]

theorem forall_mem_dumpMembers {members : List (PyStr × Value)} {depth : ℕ}
    (h : ∀ member ∈ members, (∀ c ∈ dump depth member.2, P c) ↔
      ∀ text ∈ texts member.2, ∀ c ∈ text, 32 ≤ c → P c) :
    (∀ c ∈ dumpMembers depth members, P c) ↔
      ∀ text ∈ textsOfMembers members, ∀ c ∈ text, 32 ≤ c → P c := by
  induction members with
  | nil => simp [dumpMembers, textsOfMembers]
  | cons member members ih =>
    have hrest := ih fun member' hmember' => h member' (List.mem_cons_of_mem _ hmember')
    have hmember := forall_mem_dumpMember hplain (h member List.mem_cons_self)
    have hnewline := forall_mem_newline hplain depth
    simp only [dumpMembers, textsOfMembers, List.forall_mem_cons, List.forall_mem_append,
      hmember, hrest, hplain 44 (by decide) (by decide), true_and]
    exact and_iff_right hnewline

/-- Behind what is plain, the text of a value has the characters of its strings that are not
escaped. -/
theorem forall_mem_dump {value : Value} (h : Loadable floats value) (depth : ℕ) :
    (∀ c ∈ dump depth value, P c) ↔ ∀ text ∈ texts value, ∀ c ∈ text, 32 ≤ c → P c := by
  have hword : ∀ word : PyStr, (∀ c ∈ word, c < 128 ∧ c ≠ 13) → ∀ c ∈ word, P c :=
    fun word hword c hc => hplain c (hword c hc).1 (hword c hc).2
  induction h generalizing depth with
  | null => exact iff_of_true (hword (pyStr "null") (by decide)) nofun
  | bool value =>
    cases value with
    | true => exact iff_of_true (hword (pyStr "true") (by decide)) nofun
    | false => exact iff_of_true (hword (pyStr "false") (by decide)) nofun
  | number h => exact iff_of_true (hword _ h.plain) nofun
  | str text =>
    rw [dump, forall_mem_dumpString hplain, texts, List.forall_mem_singleton]
  | @arr items h ih =>
    rw [texts]
    cases items with
    | nil => exact iff_of_true (hword [91, 93] (by decide)) nofun
    | cons item items =>
      have hitems := forall_mem_dumpItems hplain fun item' hitem' =>
        ih item' (List.mem_cons_of_mem _ hitem') (depth + 1)
      have hinner := forall_mem_newline hplain (depth + 1)
      have houter := forall_mem_newline hplain depth
      simp only [dump, textsOfItems, List.forall_mem_cons, List.forall_mem_append, hitems,
        ih item List.mem_cons_self, hplain 91 (by decide) (by decide),
        hplain 93 (by decide) (by decide), List.not_mem_nil, false_imp_iff, implies_true,
        and_true, true_and]
      exact ⟨fun h => ⟨h.2.1, h.2.2.1⟩, fun h => ⟨hinner, h.1, h.2, houter⟩⟩
  | @obj members hkeys h ih =>
    rw [texts]
    cases members with
    | nil => exact iff_of_true (hword [123, 125] (by decide)) nofun
    | cons member members =>
      have hmember := forall_mem_dumpMember hplain (ih member List.mem_cons_self (depth + 1))
      have hmembers := forall_mem_dumpMembers hplain fun member' hmember' =>
        ih member' (List.mem_cons_of_mem _ hmember') (depth + 1)
      have hinner := forall_mem_newline hplain (depth + 1)
      have houter := forall_mem_newline hplain depth
      simp only [dump, textsOfMembers, List.forall_mem_cons, List.forall_mem_append, hmember,
        hmembers, hplain 123 (by decide) (by decide), hplain 125 (by decide) (by decide),
        List.not_mem_nil, false_imp_iff, implies_true, and_true, true_and]
      exact ⟨fun h => ⟨h.2.1, h.2.2.1⟩, fun h => ⟨hinner, h.1, h.2, houter⟩⟩

end

/-- There is no carriage return in what is written. -/
theorem notMem_dumps {value : Value} (h : Loadable floats value) : 13 ∉ dumps value := by
  have hchars := (forall_mem_dump (P := fun c => c ≠ 13) (fun _ _ hc => hc) h 0).mpr
    fun text _ c _ hc => by omega
  exact fun hmem => hchars 13 hmem rfl

/-- A lone surrogate in what is written is one in a string. -/
theorem scalar_dumps {value : Value} (h : Loadable floats value) :
    (dumps value).Scalar ↔ ∀ text ∈ texts value, text.Scalar := by
  have hlow : ∀ c < 128, c.isValidChar := fun c hc => .inl (by omega)
  have hchars := forall_mem_dump (P := fun c => c.isValidChar) (fun c hc _ => hlow c hc) h 0
  refine hchars.trans ?_
  constructor
  · intro h text htext c hc
    by_cases hcontrol : 32 ≤ c
    · exact h text htext c hc hcontrol
    · exact hlow c (by omega)
  · intro h text htext c hc _
    exact h text htext c hc

end JsonText
end CastDelivery
