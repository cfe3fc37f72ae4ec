import CastDelivery.Release.VersionText

/-!
# The next version

`next_calver` of `set_version.py` numbers the releases of a day from the tags that are there.
`freshAndIncreasing`: the version it returns is behind all tags of its day and is no tag itself.
The sequences end where `str` writes and `int` reads no more digits; there the call raises.
`pairwise_releases` is about the runs of releases.
-/

namespace CastDelivery
namespace Release

/-- `bare`: a tag without the prefix, if it has the prefix. -/
def bare (tagPrefix value : PyStr) : PyStr :=
  if tagPrefix ≠ [] ∧ tagPrefix.isPrefixOf value then value.drop tagPrefix.length else value

/-- What a tag adds to `sequences`. -/
def sequenceOf (releaseDate : ReleaseDate) (tagPrefix value : PyStr) : Option ℕ :=
  match parseCalver (bare tagPrefix value) with
  -- a tag that is no version is skipped
  | none => none
  | some (versionDate, sequence) =>
    if versionDate = releaseDate.toCalDate then some sequence else none

/-- `next_calver`, unless it raises `ValueError`. -/
def nextCalver (existing : List PyStr) (releaseDate : ReleaseDate) (tagPrefix : PyStr) :
    Option PyStr :=
  let sequences := existing.filterMap (sequenceOf releaseDate tagPrefix)
  (formatInt (sequences.max?.getD 0 + 1)).map fun sequence =>
    releaseDate.format ++ pyStr "." ++ sequence

/-! ## What the next version is meant to be -/

/-- The largest number of as many digits as `int` reads and `str` writes. -/
def maxSequence : ℕ := 10 ^ maxStrDigits - 1

/-- The version is behind the tags of its date, and is not among the tags itself. -/
structure IsNext (existing : List PyStr) (releaseDate : ReleaseDate) (tagPrefix : PyStr)
    (sequence : ℕ) (version : PyStr) : Prop where
  parses : parseCalver version = some (releaseDate.toCalDate, sequence)
  increasing : ∀ value ∈ existing, ∀ taken,
    parseCalver (bare tagPrefix value) = some (releaseDate.toCalDate, taken) → taken < sequence
  fresh : tagPrefix ++ version ∉ existing

/-- The version that `next_calver` returns is the next one, and is so again once it is a tag, up to
the largest sequence. -/
structure FreshAndIncreasing (existing : List PyStr) (releaseDate : ReleaseDate)
    (tagPrefix : PyStr) : Prop where
  /-- It raises if the largest sequence is that of a tag, and on no other condition. -/
  raises : nextCalver existing releaseDate tagPrefix = none ↔ ∃ value ∈ existing,
    parseCalver (bare tagPrefix value) = some (releaseDate.toCalDate, maxSequence)
  next : ∀ version, nextCalver existing releaseDate tagPrefix = some version →
    ∃ sequence, IsNext existing releaseDate tagPrefix sequence version
  again : ∀ version sequence, nextCalver existing releaseDate tagPrefix = some version →
    parseCalver version = some (releaseDate.toCalDate, sequence) → sequence ≠ maxSequence →
    ∃ version', nextCalver (existing ++ [tagPrefix ++ version]) releaseDate tagPrefix =
        some version' ∧
      IsNext (existing ++ [tagPrefix ++ version]) releaseDate tagPrefix (sequence + 1) version'

/-! ## The tags of a date -/

section

variable {existing : List PyStr} {releaseDate : ReleaseDate} {tagPrefix value version : PyStr}
  {sequence : ℕ}

theorem sequenceOf_eq_some_iff : sequenceOf releaseDate tagPrefix value = some sequence ↔
    parseCalver (bare tagPrefix value) = some (releaseDate.toCalDate, sequence) := by
  unfold sequenceOf
  cases parseCalver (bare tagPrefix value) with
  | none => simp
  | some parsed =>
    obtain ⟨versionDate, found⟩ := parsed
    simp only
    by_cases hdate : versionDate = releaseDate.toCalDate
    · rw [if_pos hdate, hdate]
      simp
    · rw [if_neg hdate]
      simp [hdate]

/-- The prefix is taken off again. -/
theorem bare_append (tagPrefix version : PyStr) :
    bare tagPrefix (tagPrefix ++ version) = version := by
  unfold bare
  by_cases hempty : tagPrefix = []
  · rw [if_neg fun h => h.1 hempty, hempty, List.nil_append]
  · have hstarts : tagPrefix.isPrefixOf (tagPrefix ++ version) = true :=
      List.isPrefixOf_iff_prefix.mpr (List.prefix_append _ _)
    rw [if_pos ⟨hempty, hstarts⟩, List.drop_left]

/-- `max(sequences, default=0)`. -/
def lastSequence (existing : List PyStr) (releaseDate : ReleaseDate) (tagPrefix : PyStr) : ℕ :=
  (existing.filterMap (sequenceOf releaseDate tagPrefix)).max?.getD 0

theorem le_lastSequence (hvalue : value ∈ existing)
    (h : parseCalver (bare tagPrefix value) = some (releaseDate.toCalDate, sequence)) :
    sequence ≤ lastSequence existing releaseDate tagPrefix :=
  List.le_max?_getD_of_mem
    (List.mem_filterMap.mpr ⟨value, hvalue, sequenceOf_eq_some_iff.mpr h⟩)

/-- The last sequence is that of a tag, unless it is zero. -/
theorem exists_tag_of_lastSequence (h : lastSequence existing releaseDate tagPrefix ≠ 0) :
    ∃ value ∈ existing, parseCalver (bare tagPrefix value) =
      some (releaseDate.toCalDate, lastSequence existing releaseDate tagPrefix) := by
  unfold lastSequence at h ⊢
  cases hmax : (existing.filterMap (sequenceOf releaseDate tagPrefix)).max? with
  | none =>
    rw [hmax] at h
    exact absurd rfl h
  | some last =>
    obtain ⟨value, hvalue, hsequence⟩ := List.mem_filterMap.mp (List.max?_mem hmax)
    exact ⟨value, hvalue, sequenceOf_eq_some_iff.mp hsequence⟩

theorem lastSequence_lt (existing : List PyStr) (releaseDate : ReleaseDate) (tagPrefix : PyStr) :
    lastSequence existing releaseDate tagPrefix < 10 ^ maxStrDigits := by
  by_cases hzero : lastSequence existing releaseDate tagPrefix = 0
  · rw [hzero]
    exact Nat.pow_pos (by decide)
  · obtain ⟨value, -, hparse⟩ := exists_tag_of_lastSequence hzero
    exact sequence_lt hparse

/-- A tag behind the others has the last sequence. -/
theorem lastSequence_concat
    (h : parseCalver (bare tagPrefix value) = some (releaseDate.toCalDate, sequence))
    (hlast : lastSequence existing releaseDate tagPrefix ≤ sequence) :
    lastSequence (existing ++ [value]) releaseDate tagPrefix = sequence := by
  have hmax : (existing.filterMap (sequenceOf releaseDate tagPrefix) ++ [sequence]).max? =
      some sequence := by
    refine List.max?_eq_some_iff.mpr ⟨List.mem_append_right _ List.mem_cons_self, ?_⟩
    intro n hn
    rcases List.mem_append.mp hn with hn | hn
    · exact Nat.le_trans (List.le_max?_getD_of_mem hn) hlast
    · exact Nat.le_of_eq (List.mem_singleton.mp hn)
  unfold lastSequence
  rw [List.filterMap_append, List.filterMap_cons_some (sequenceOf_eq_some_iff.mpr h),
    List.filterMap_nil, hmax]
  rfl

/-- The next version has the sequence behind the last one, if that can be written. -/
theorem nextCalver_eq : nextCalver existing releaseDate tagPrefix =
    if lastSequence existing releaseDate tagPrefix + 1 < 10 ^ maxStrDigits then
      some (releaseDate.version (lastSequence existing releaseDate tagPrefix + 1))
    else none := by
  have hunfold : nextCalver existing releaseDate tagPrefix =
      (formatInt (lastSequence existing releaseDate tagPrefix + 1)).map fun sequence =>
        releaseDate.format ++ pyStr "." ++ sequence := rfl
  rw [hunfold, formatInt_eq]
  split
  · rfl
  · rfl

/-! ## The next version -/

theorem maxSequence_add_one : maxSequence + 1 = 10 ^ maxStrDigits :=
  Nat.sub_add_cancel (Nat.pow_pos (by decide))

/-- The call raises if the last sequence is the largest one. -/
theorem nextCalver_eq_none_iff : nextCalver existing releaseDate tagPrefix = none ↔
    lastSequence existing releaseDate tagPrefix = maxSequence := by
  have hlast := lastSequence_lt existing releaseDate tagPrefix
  rw [nextCalver_eq, ← maxSequence_add_one]
  rw [← maxSequence_add_one] at hlast
  constructor
  · intro h
    split at h
    · cases h
    · omega
  · intro h
    rw [h]
    exact if_neg (Nat.lt_irrefl _)

theorem lastSequence_eq_maxSequence_iff :
    lastSequence existing releaseDate tagPrefix = maxSequence ↔ ∃ value ∈ existing,
      parseCalver (bare tagPrefix value) = some (releaseDate.toCalDate, maxSequence) := by
  constructor
  · intro h
    have hpos : lastSequence existing releaseDate tagPrefix ≠ 0 := by
      rw [h]
      intro hzero
      have hone := maxSequence_add_one
      rw [hzero] at hone
      exact absurd hone (Nat.ne_of_lt (Nat.one_lt_pow (by decide) (by decide)))
    rw [← h]
    exact exists_tag_of_lastSequence hpos
  · rintro ⟨value, hvalue, hparse⟩
    have hle := le_lastSequence hvalue hparse
    have hlast := lastSequence_lt existing releaseDate tagPrefix
    rw [← maxSequence_add_one] at hlast
    omega

/-- The version behind the last sequence is the next one. -/
theorem isNext_version (hyear : 1000 ≤ releaseDate.year)
    (hroom : lastSequence existing releaseDate tagPrefix + 1 < 10 ^ maxStrDigits) :
    IsNext existing releaseDate tagPrefix (lastSequence existing releaseDate tagPrefix + 1)
      (releaseDate.version (lastSequence existing releaseDate tagPrefix + 1)) := by
  have hparses := ReleaseDate.parseCalver_version hyear (Nat.succ_pos _) hroom
  have hincreasing : ∀ value ∈ existing, ∀ taken,
      parseCalver (bare tagPrefix value) = some (releaseDate.toCalDate, taken) →
        taken < lastSequence existing releaseDate tagPrefix + 1 :=
    fun value hvalue taken htaken => Nat.lt_succ_of_le (le_lastSequence hvalue htaken)
  refine ⟨hparses, hincreasing, ?_⟩
  intro hmem
  -- a tag of this version would have a sequence before its own
  have hbefore := hincreasing _ hmem _ (by rw [bare_append]; exact hparses)
  exact Nat.lt_irrefl _ hbefore

theorem isNext_of_nextCalver (hyear : 1000 ≤ releaseDate.year)
    (h : nextCalver existing releaseDate tagPrefix = some version) :
    IsNext existing releaseDate tagPrefix (lastSequence existing releaseDate tagPrefix + 1)
      version := by
  rw [nextCalver_eq] at h
  split at h
  · next hroom =>
    rw [← Option.some.inj h]
    exact isNext_version hyear hroom
  · cases h

/-- A version that becomes a tag has the last sequence. -/
theorem lastSequence_nextCalver (hyear : 1000 ≤ releaseDate.year)
    (h : nextCalver existing releaseDate tagPrefix = some version) :
    lastSequence (existing ++ [tagPrefix ++ version]) releaseDate tagPrefix =
      lastSequence existing releaseDate tagPrefix + 1 := by
  have hparses := (isNext_of_nextCalver hyear h).parses
  rw [← bare_append tagPrefix version] at hparses
  exact lastSequence_concat hparses (Nat.le_succ _)

/-- The largest sequence is that of a version, and there is none behind it. -/
theorem raises_after (hyear : 1000 ≤ releaseDate.year)
    (h : lastSequence existing releaseDate tagPrefix + 1 = maxSequence) :
    ∃ version, nextCalver existing releaseDate tagPrefix = some version ∧
      IsNext existing releaseDate tagPrefix
        (lastSequence existing releaseDate tagPrefix + 1) version ∧
      nextCalver (existing ++ [tagPrefix ++ version]) releaseDate tagPrefix = none := by
  have hreturns : nextCalver existing releaseDate tagPrefix ≠ none := by
    rw [Ne, nextCalver_eq_none_iff]
    omega
  obtain ⟨version, hversion⟩ := Option.ne_none_iff_exists'.mp hreturns
  refine ⟨version, hversion, isNext_of_nextCalver hyear hversion, ?_⟩
  rw [nextCalver_eq_none_iff, lastSequence_nextCalver hyear hversion, h]

end

/-- **The next version is fresh and increasing.** -/
theorem freshAndIncreasing (existing : List PyStr) (releaseDate : ReleaseDate)
    (tagPrefix : PyStr) (hyear : 1000 ≤ releaseDate.year) :
    FreshAndIncreasing existing releaseDate tagPrefix := by
  refine ⟨nextCalver_eq_none_iff.trans lastSequence_eq_maxSequence_iff, ?_, ?_⟩
  · intro version hversion
    exact ⟨_, isNext_of_nextCalver hyear hversion⟩
  · intro version sequence hversion hparse hroom
    have hnext := isNext_of_nextCalver hyear hversion
    obtain rfl : lastSequence existing releaseDate tagPrefix + 1 = sequence := by
      have hpair := Option.some.inj (hnext.parses.symm.trans hparse)
      exact congrArg Prod.snd hpair
    have hlast := lastSequence_nextCalver hyear hversion
    have hreturns :
        nextCalver (existing ++ [tagPrefix ++ version]) releaseDate tagPrefix ≠ none := by
      rw [Ne, nextCalver_eq_none_iff, hlast]
      exact hroom
    obtain ⟨version', hversion'⟩ := Option.ne_none_iff_exists'.mp hreturns
    have hnext' := isNext_of_nextCalver hyear hversion'
    rw [hlast] at hnext'
    exact ⟨version', hversion', hnext'⟩

/-- The third of September 2026. -/
def releaseDay : ReleaseDate := ⟨⟨2026, 9, 3⟩, by decide⟩

/-- Tags with and without the prefix and a sequence, one of another day, and one that is no
version. -/
def someTags : List PyStr :=
  [pyStr "v2026.09.03.2", pyStr "v2026.09.03", pyStr "2026.09.03.11", pyStr "v2026.09.04.40",
    pyStr "nightly"]

theorem freshAndIncreasing_someTags : FreshAndIncreasing someTags releaseDay (pyStr "v") :=
  freshAndIncreasing someTags releaseDay (pyStr "v") (by decide)

example : nextCalver someTags releaseDay (pyStr "v") = some (pyStr "2026.09.03.12") := by decide

/-! ## Releases -/

/-- The tags after releases on the given days, unless `next_calver` raises. -/
def releases (tagPrefix : PyStr) : List ReleaseDate → List PyStr → Option (List PyStr)
  | [], existing => some existing
  | date :: dates, existing => (nextCalver existing date tagPrefix).bind fun version =>
    releases tagPrefix dates (existing ++ [tagPrefix ++ version])

/-- Two tags are different, and of two versions of one day the later one has the larger sequence. -/
structure Before (tagPrefix earlier later : PyStr) : Prop where
  ne : earlier ≠ later
  increasing : ∀ date m n, parseCalver (bare tagPrefix earlier) = some (date, m) →
    parseCalver (bare tagPrefix later) = some (date, n) → m < n

section

variable {existing existing' : List PyStr} {releaseDate : ReleaseDate} {tagPrefix version : PyStr}

/-- Step lemma: every tag is before the one of a release. -/
theorem pairwise_concat (hyear : 1000 ≤ releaseDate.year)
    (h : nextCalver existing releaseDate tagPrefix = some version)
    (hbefore : existing.Pairwise (Before tagPrefix)) :
    (existing ++ [tagPrefix ++ version]).Pairwise (Before tagPrefix) := by
  have hnext := isNext_of_nextCalver hyear h
  refine List.pairwise_append.mpr ⟨hbefore, List.pairwise_singleton _ _, ?_⟩
  intro earlier hearlier later hlater
  rw [List.mem_singleton.mp hlater]
  constructor
  · rintro rfl
    exact hnext.fresh hearlier
  · intro date m n hm hn
    rw [bare_append, hnext.parses] at hn
    cases hn
    exact hnext.increasing earlier hearlier m hm

/-- **No release is published over another one**: over every run of releases the tags stay different
and the sequences of a day grow. -/
theorem pairwise_releases {dates : List ReleaseDate} (hyears : ∀ date ∈ dates, 1000 ≤ date.year)
    (hbefore : existing.Pairwise (Before tagPrefix))
    (h : releases tagPrefix dates existing = some existing') :
    existing'.Pairwise (Before tagPrefix) := by
  induction dates generalizing existing with
  | nil =>
    cases h
    exact hbefore
  | cons date dates ih =>
    obtain ⟨version, hversion, hrest⟩ := Option.bind_eq_some_iff.mp h
    have hyear := hyears date List.mem_cons_self
    exact ih (fun later hlater => hyears later (List.mem_cons_of_mem _ hlater))
      (pairwise_concat hyear hversion hbefore) hrest

end

/-! ## The largest sequences -/

theorem number_nines (k : ℕ) : number (List.replicate k 57) + 1 = 10 ^ k := by
  induction k with
  | zero => rfl
  | succ k ih =>
    rw [List.replicate_succ', number_concat, Nat.pow_succ]
    omega

/-- Nines and an eight. -/
def ninesAndEight (k : ℕ) : PyStr := List.replicate k 57 ++ [56]

/-- A tag of the day with the last sequence but one. -/
def lastTagButOne : PyStr := pyStr "2026.09.03." ++ ninesAndEight 4299

section

variable {k : ℕ}

theorem number_ninesAndEight (hk : k + 1 = maxStrDigits) :
    number (ninesAndEight k) + 1 = maxSequence := by
  have hnines := number_nines k
  have hmax := maxSequence_add_one
  rw [← hk, Nat.pow_succ] at hmax
  unfold ninesAndEight
  rw [number_concat]
  omega

theorem matchSequence_ninesAndEight (k : ℕ) :
    matchSequence (46 :: ninesAndEight k) = some (some (ninesAndEight k)) := by
  cases k with
  | zero => rfl
  | succ k =>
    have hdigits : (List.replicate k 57 ++ [56]).all isDigit = true := by
      refine List.all_eq_true.mpr fun c hc => ?_
      rcases List.mem_append.mp hc with hnine | height
      · rw [List.eq_of_mem_replicate hnine]
        decide
      · rw [List.mem_singleton.mp height]
        decide
    exact if_pos ⟨rfl, rfl, by decide, hdigits⟩

theorem parseCalver_ninesAndEight (hk : k + 1 = maxStrDigits) :
    parseCalver (pyStr "2026.09.03." ++ ninesAndEight k) =
      some (releaseDay.toCalDate, number (ninesAndEight k)) := by
  have hmatch : calverFullmatch (pyStr "2026.09.03." ++ ninesAndEight k) =
      some ⟨pyStr "2026", pyStr "09", pyStr "03", some (ninesAndEight k)⟩ := by
    have htext : pyStr "2026.09.03." ++ ninesAndEight k =
        pyStr "2026" ++ 46 :: pyStr "09" ++ 46 :: pyStr "03" ++ 46 :: ninesAndEight k := rfl
    rw [htext, calverFullmatch_append rfl rfl rfl (by decide), matchSequence_ninesAndEight]
    rfl
  have hlength : ¬ maxStrDigits < (ninesAndEight k).length := by
    unfold ninesAndEight
    rw [List.length_append, List.length_replicate, List.length_singleton, hk]
    exact Nat.lt_irrefl _
  unfold parseCalver
  rw [hmatch]
  simp only [Option.getD_some]
  rw [if_neg hlength]
  rfl

end

theorem lastSequence_lastTagButOne :
    lastSequence [lastTagButOne] releaseDay [] + 1 = maxSequence := by
  have hdigits : 4299 + 1 = maxStrDigits := by decide
  have hparse : parseCalver (bare [] lastTagButOne) =
      some (releaseDay.toCalDate, number (ninesAndEight 4299)) :=
    parseCalver_ninesAndEight hdigits
  have hlast : lastSequence ([] ++ [lastTagButOne]) releaseDay [] = number (ninesAndEight 4299) :=
    lastSequence_concat hparse (Nat.zero_le _)
  rw [List.nil_append] at hlast
  rw [hlast]
  exact number_ninesAndEight hdigits

/-- The version behind the last tag but one is the next one. Once it is a tag, the call raises. -/
theorem not_again_lastTagButOne : ∃ version sequence,
    nextCalver [lastTagButOne] releaseDay [] = some version ∧
      IsNext [lastTagButOne] releaseDay [] sequence version ∧
      ¬ ∃ version', nextCalver ([lastTagButOne] ++ [[] ++ version]) releaseDay [] = some version' ∧
        IsNext ([lastTagButOne] ++ [[] ++ version]) releaseDay [] (sequence + 1) version' := by
  obtain ⟨version, hversion, hnext, hraises⟩ :=
    raises_after (by decide) lastSequence_lastTagButOne
  refine ⟨version, _, hversion, hnext, ?_⟩
  rintro ⟨version', hversion', -⟩
  exact Option.some_ne_none _ (hversion'.symm.trans hraises)

end Release
end CastDelivery
