import CastDelivery.Playlist.Basic

/-!
# Which `EXTINF` line belongs to which entry

`parse_m3u` carries a length and a title from line to line. `pairsEntries` says what comes of it:
an entry has those of the last well-formed `EXTINF` line behind the entry before it, and the
first HLS marker or invalid entry ends the parse.
-/

namespace CastDelivery

/-! ## Lines -/

/-- The line is an entry. -/
def isEntry (line : String) : Bool := lineKind line = .entry

/-- The line is a malformed `EXTINF` line. -/
def isMalformed (line : String) : Bool := lineKind line = .malformed

/-- The length and the title of a well-formed `EXTINF` line. -/
def infoOf (line : String) : Option (List String × String) :=
  match lineKind line with
  | .extinf length title => some (length, title)
  | _ => none

/-- The line ends the parse. -/
def endsParse (isUrl : String → Bool) (line : String) : Bool :=
  lineKind line = .hls || (isEntry line && !isUrl line)

/-- The exception that a line ends the parse with. -/
def endOf (url line : String) : PlaylistExc :=
  if lineKind line = .hls then .supported "HLS"
  else .error ("Invalid item " ++ line ++ " in playlist " ++ url)

/-! ## Pairing -/

/-- The number of the `EXTINF` line that belongs to an entry in line `i`. -/
def source (lines : List String) : ℕ → Option ℕ
  | 0 => none
  | i + 1 =>
    if lines[i]?.any isEntry then none
    else if (lines[i]?.bind infoOf).isSome then some i
    else source lines i

/-- The length and the title that belong to an entry in line `i`. -/
def infoAt (lines : List String) (i : ℕ) : Option (List String × String) :=
  (source lines i).bind fun k => lines[k]?.bind infoOf

/-- The item of line `i`, if it is an entry. -/
def itemAt (lines : List String) (i : ℕ) : Option PlaylistItem :=
  (lines[i]?.filter isEntry).map fun line =>
    { length := (infoAt lines i).map fun info => .parts info.1
      title := (infoAt lines i).map Prod.snd
      url := line }

/-- The items of a playlist, one for each entry. -/
def itemsOf (lines : List String) : List PlaylistItem :=
  (List.range lines.length).filterMap (itemAt lines)

/-- The line `k` is the last well-formed `EXTINF` line before line `i`, with no entry between. -/
structure IsSource (lines : List String) (i k : ℕ) : Prop where
  lt : k < i
  info : (lines[k]?.bind infoOf).isSome
  last : ∀ m, k < m → m < i → lines[m]?.any isEntry = false ∧ lines[m]?.bind infoOf = none

/-- Each entry is paired with its own `EXTINF` line. -/
structure PairsEntries (isUrl : String → Bool) (url : String) (lines : List String)
    (parsed : Except PlaylistExc (List PlaylistItem)) : Prop where
  /-- The first line that ends the parse decides how it ends. -/
  ends : ∀ line, lines.find? (endsParse isUrl) = some line → parsed = .error (endOf url line)
  /-- Without such a line there is one item for each entry, in order. -/
  items : lines.find? (endsParse isUrl) = none → parsed = .ok (itemsOf lines)
  /-- An entry has the information of the last `EXTINF` line behind the entry before it. -/
  sources : ∀ i k, source lines i = some k ↔ IsSource lines i k
  /-- No `EXTINF` line is used for two entries. -/
  once : ∀ i j k, lines[i]?.any isEntry = true → lines[j]?.any isEntry = true →
    source lines i = some k → source lines j = some k → i = j
  /-- Malformed ones make no difference. -/
  malformed : parseM3uLines (fun line => some (isUrl line)) url
    (lines.filter fun line => !isMalformed line) = parsed

section

variable {lines front rest : List String} {line url : String} {isUrl : String → Bool} {i j k : ℕ}

theorem infoOf_eq_none_of_entry (h : isEntry line = true) : infoOf line = none := by
  have hkind : lineKind line = .entry := of_decide_eq_true h
  unfold infoOf
  rw [hkind]

theorem source_succ (lines : List String) (i : ℕ) :
    source lines (i + 1) =
      if lines[i]?.any isEntry then none
      else if (lines[i]?.bind infoOf).isSome then some i
      else source lines i := rfl

/-- The source of a line is found by going back from it. -/
theorem source_eq_some_iff : source lines i = some k ↔ IsSource lines i k := by
  induction i with
  | zero =>
    constructor
    · intro h
      cases h
    · intro h
      exact absurd h.lt (Nat.not_lt_zero k)
  | succ i ih =>
    rw [source_succ]
    by_cases hentry : lines[i]?.any isEntry = true
    · rw [if_pos hentry]
      constructor
      · intro h
        cases h
      · intro h
        -- an entry in line `i` is between, unless it is the source itself
        by_cases hk : k = i
        · obtain ⟨line, hline, hisEntry⟩ := (Option.any_eq_true _ _).mp hentry
          have hinfo := h.info
          rw [hk, hline, Option.bind_some, infoOf_eq_none_of_entry hisEntry] at hinfo
          cases hinfo
        · have hbetween := (h.last i (by have := h.lt; omega) (Nat.lt_succ_self i)).1
          rw [hbetween] at hentry
          cases hentry
    · have hnone : lines[i]?.any isEntry = false := Bool.eq_false_iff.mpr hentry
      rw [if_neg hentry]
      by_cases hinfo : (lines[i]?.bind infoOf).isSome = true
      · rw [if_pos hinfo]
        constructor
        · intro h
          obtain rfl := Option.some.inj h
          exact ⟨Nat.lt_succ_self i, hinfo, fun m hm hm' => absurd hm' (by omega)⟩
        · intro h
          by_cases hk : k = i
          · rw [hk]
          · have hbetween := (h.last i (by have := h.lt; omega) (Nat.lt_succ_self i)).2
            rw [hbetween] at hinfo
            cases hinfo
      · rw [if_neg hinfo, ih]
        have hnoInfo : lines[i]?.bind infoOf = none := Option.not_isSome_iff_eq_none.mp hinfo
        constructor
        · intro h
          refine ⟨Nat.lt_succ_of_lt h.lt, h.info, ?_⟩
          intro m hm hm'
          by_cases hmi : m = i
          · rw [hmi]
            exact ⟨hnone, hnoInfo⟩
          · exact h.last m hm (by omega)
        · intro h
          have hk : k ≠ i := by
            rintro rfl
            exact hinfo h.info
          refine ⟨by have := h.lt; omega, h.info, ?_⟩
          intro m hm hm'
          exact h.last m hm (by omega)

/-- Of two entries with one source, neither is before the other. -/
theorem not_lt_of_source (hentry : lines[i]?.any isEntry = true) (hi : source lines i = some k)
    (hj : source lines j = some k) : ¬ i < j := by
  intro hlt
  have hbetween := ((source_eq_some_iff.mp hj).last i (source_eq_some_iff.mp hi).lt hlt).1
  rw [hbetween] at hentry
  cases hentry

/-- What is before a line decides its source. -/
theorem source_append (h : i ≤ front.length) : source (front ++ rest) i = source front i := by
  induction i with
  | zero => rfl
  | succ i ih =>
    rw [source_succ, source_succ, ih (by omega), List.getElem?_append_left (by omega)]

theorem infoAt_append (h : i ≤ front.length) : infoAt (front ++ rest) i = infoAt front i := by
  unfold infoAt
  rw [source_append h]
  cases hsource : source front i with
  | none => rfl
  | some k =>
    have hk := (source_eq_some_iff.mp hsource).lt
    rw [Option.bind_some, Option.bind_some, List.getElem?_append_left (by omega)]

theorem itemAt_append (h : i < front.length) : itemAt (front ++ rest) i = itemAt front i := by
  unfold itemAt
  rw [infoAt_append h.le, List.getElem?_append_left h]

/-- What one more line makes of the information for the next entry. -/
theorem infoAt_concat (front : List String) (line : String) :
    infoAt (front ++ [line]) (front.length + 1) =
      if isEntry line then none else (infoOf line).or (infoAt front front.length) := by
  have hline : (front ++ [line])[front.length]? = some line := by simp
  have hbefore : infoAt (front ++ [line]) front.length = infoAt front front.length :=
    infoAt_append (Nat.le_refl _)
  unfold infoAt at hbefore ⊢
  rw [source_succ, hline]
  by_cases hentry : isEntry line = true
  · rw [if_pos hentry, if_pos (by simpa using hentry)]
    rfl
  · rw [if_neg hentry, if_neg (by simpa using hentry), Option.bind_some]
    cases hinfo : infoOf line with
    | none => exact hbefore
    | some info =>
      rw [if_pos (show (some info).isSome = true from rfl), Option.bind_some, hline]
      exact hinfo

/-- What one more line adds to the items. -/
theorem itemsOf_concat (front : List String) (line : String) :
    itemsOf (front ++ [line]) =
      itemsOf front ++ (itemAt (front ++ [line]) front.length).toList := by
  have hsame : (List.range front.length).filterMap (itemAt (front ++ [line])) =
      (List.range front.length).filterMap (itemAt front) :=
    List.filterMap_congr fun i hi => itemAt_append (List.mem_range.mp hi)
  have hlast : [front.length].filterMap (itemAt (front ++ [line])) =
      (itemAt (front ++ [line]) front.length).toList := by
    cases hitem : itemAt (front ++ [line]) front.length with
    | none => exact List.filterMap_cons_none hitem
    | some item => exact List.filterMap_cons_some hitem
  unfold itemsOf
  rw [List.length_append, List.length_singleton, List.range_succ, List.filterMap_append, hsame,
    hlast]

/-! ## The loop -/

/-- The variables of the loop behind some lines. -/
def stateAt (front : List String) : M3uState where
  length := (infoAt front front.length).map Prod.fst
  title := (infoAt front front.length).map Prod.snd
  playlist := itemsOf front

theorem stateAt_concat_of_not_entry (hentry : isEntry line = false) :
    stateAt (front ++ [line]) =
      { length := ((infoOf line).or (infoAt front front.length)).map Prod.fst
        title := ((infoOf line).or (infoAt front front.length)).map Prod.snd
        playlist := itemsOf front } := by
  have hinfo := infoAt_concat front line
  rw [hentry, if_neg Bool.false_ne_true] at hinfo
  have hline : (front ++ [line])[front.length]? = some line := by simp
  have hitem : itemAt (front ++ [line]) front.length = none := by
    unfold itemAt
    rw [hline, Option.filter_some, hentry]
    rfl
  unfold stateAt
  rw [List.length_append, List.length_singleton, hinfo, itemsOf_concat, hitem, Option.toList_none,
    List.append_nil]

theorem stateAt_concat_of_entry (hentry : isEntry line = true) :
    stateAt (front ++ [line]) =
      { length := none
        title := none
        playlist := itemsOf front ++
          [⟨(infoAt front front.length).map fun info => .parts info.1,
            (infoAt front front.length).map Prod.snd, line⟩] } := by
  have hinfo := infoAt_concat front line
  rw [hentry, if_pos rfl] at hinfo
  have hline : (front ++ [line])[front.length]? = some line := by simp
  have hitem : itemAt (front ++ [line]) front.length =
      some ⟨(infoAt front front.length).map fun info => .parts info.1,
        (infoAt front front.length).map Prod.snd, line⟩ := by
    unfold itemAt
    rw [hline, Option.filter_some, hentry, infoAt_append (Nat.le_refl _)]
    rfl
  unfold stateAt
  rw [List.length_append, List.length_singleton, hinfo, itemsOf_concat, hitem]
  rfl

/-- Step lemma: one turn of the loop. -/
theorem step_stateAt (front : List String) (line : String) :
    M3uState.step (fun line => some (isUrl line)) url (stateAt front) line =
      if endsParse isUrl line then .error (endOf url line)
      else .ok (stateAt (front ++ [line])) := by
  have hother (hkind : lineKind line ≠ .hls) (hentry : isEntry line = false) :
      endsParse isUrl line = false := by
    unfold endsParse
    rw [hentry, Bool.false_and, Bool.or_false]
    exact decide_eq_false hkind
  have hskipped (hinfo : infoOf line = none) (hentry : isEntry line = false) :
      stateAt (front ++ [line]) = stateAt front := by
    rw [stateAt_concat_of_not_entry hentry, hinfo]
    rfl
  unfold M3uState.step
  cases hkind : lineKind line with
  | extinf length title =>
    have hentry : isEntry line = false := by simp [isEntry, hkind]
    have hinfo : infoOf line = some (length, title) := by simp [infoOf, hkind]
    rw [hother (by simp [hkind]) hentry, stateAt_concat_of_not_entry hentry, hinfo]
    rfl
  | malformed =>
    have hentry : isEntry line = false := by simp [isEntry, hkind]
    rw [hother (by simp [hkind]) hentry, hskipped (by simp [infoOf, hkind]) hentry]
    rfl
  | comment =>
    have hentry : isEntry line = false := by simp [isEntry, hkind]
    rw [hother (by simp [hkind]) hentry, hskipped (by simp [infoOf, hkind]) hentry]
    rfl
  | blank =>
    have hentry : isEntry line = false := by simp [isEntry, hkind]
    rw [hother (by simp [hkind]) hentry, hskipped (by simp [infoOf, hkind]) hentry]
    rfl
  | hls =>
    have hends : endsParse isUrl line = true := by simp [endsParse, hkind]
    rw [hends, if_pos rfl, endOf, if_pos hkind]
  | entry =>
    have hentry : isEntry line = true := by simp [isEntry, hkind]
    cases hurl : isUrl line with
    | false =>
      have hends : endsParse isUrl line = true := by simp [endsParse, hentry, hurl]
      rw [hends, if_pos rfl, endOf, if_neg (by simp [hkind])]
      simp only [hurl]
    | true =>
      have hends : endsParse isUrl line = false := by simp [endsParse, hkind, hentry, hurl]
      rw [hends, if_neg Bool.false_ne_true, stateAt_concat_of_entry hentry]
      simp only [hurl, stateAt, Option.map_map]
      rfl

/-- Run lemma: the loop behind some lines. -/
theorem foldlM_stateAt (front rest : List String) :
    rest.foldlM (M3uState.step (fun line => some (isUrl line)) url) (stateAt front) =
      (rest.find? (endsParse isUrl)).elim (.ok (stateAt (front ++ rest)))
        (fun line => .error (endOf url line)) := by
  induction rest generalizing front with
  | nil =>
    rw [List.append_nil]
    rfl
  | cons line rest ih =>
    rw [List.foldlM_cons, step_stateAt]
    cases hends : endsParse isUrl line with
    | true =>
      rw [List.find?_cons_of_pos hends]
      rfl
    | false =>
      rw [List.find?_cons_of_neg (by simp [hends]), if_neg Bool.false_ne_true]
      show rest.foldlM _ (stateAt (front ++ [line])) = _
      rw [ih, List.append_assoc, List.singleton_append]

theorem parseM3uLines_eq (isUrl : String → Bool) (url : String) (lines : List String) :
    parseM3uLines (fun line => some (isUrl line)) url lines =
      (lines.find? (endsParse isUrl)).elim (.ok (itemsOf lines))
        (fun line => .error (endOf url line)) := by
  have hrun : lines.foldlM (M3uState.step (fun line => some (isUrl line)) url) (stateAt []) =
      (lines.find? (endsParse isUrl)).elim (.ok (stateAt ([] ++ lines)))
        (fun line => .error (endOf url line)) := foldlM_stateAt [] lines
  unfold parseM3uLines
  show Except.map M3uState.playlist (lines.foldlM _ (stateAt [])) = _
  rw [hrun]
  cases lines.find? (endsParse isUrl) with
  | none => rfl
  | some line => rfl

/-- A malformed line leaves the variables as they are. -/
theorem step_malformed {check : String → Option Bool} {s : M3uState}
    (h : isMalformed line = true) : M3uState.step check url s line = .ok s := by
  have hkind : lineKind line = .malformed := of_decide_eq_true h
  unfold M3uState.step
  rw [hkind]

theorem foldlM_filter_malformed {check : String → Option Bool} (lines : List String)
    (s : M3uState) :
    (lines.filter fun line => !isMalformed line).foldlM (M3uState.step check url) s =
      lines.foldlM (M3uState.step check url) s := by
  induction lines generalizing s with
  | nil => rfl
  | cons line lines ih =>
    rw [List.foldlM_cons]
    cases hmalformed : isMalformed line with
    | true =>
      rw [List.filter_cons_of_neg (by simp [hmalformed]), step_malformed hmalformed, ih]
      rfl
    | false =>
      rw [List.filter_cons_of_pos (by simp [hmalformed]), List.foldlM_cons]
      cases M3uState.step check url s line with
      | error e => rfl
      | ok s' => exact ih s'

end

/-- **Each entry is paired with its own `EXTINF` line**, in every text that is fetched. -/
theorem pairsEntries (isUrl : String → Bool) (url text : String) :
    PairsEntries isUrl url (strippedLines text)
      (parseM3uText (fun line => some (isUrl line)) url text) := by
  have hparsed := parseM3uLines_eq isUrl url (strippedLines text)
  unfold parseM3uText
  refine ⟨?_, ?_, fun i k => source_eq_some_iff, ?_, ?_⟩
  · intro line hline
    rw [hparsed, hline]
    rfl
  · intro hnone
    rw [hparsed, hnone]
    rfl
  · intro i j k hi hj hsource hsource'
    have hle := not_lt_of_source hi hsource hsource'
    have hge := not_lt_of_source hj hsource' hsource
    omega
  · unfold parseM3uLines
    rw [foldlM_filter_malformed]

example : lineKind "#EXTINF:-1 tvg=1,Radio, live" = .extinf ["-1", "tvg=1"] "Radio, live" := by
  decide

end CastDelivery
