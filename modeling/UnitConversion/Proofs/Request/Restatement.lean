import UnitConversion.Proofs.Decimal.Order
import UnitConversion.Proofs.Request.Settling
import UnitConversion.Proofs.Request.Value

/-!
# Requests written out again

What was read from a line can be written out again: the number with all its digits, and the units in
their normal forms with `to` between them. Such a line is not always read as the same request. The
normal form of `·` is a star, and that of `İ` has a combining dot, and neither is a character of
units; and the normal form of an ordinal sign starts as units do, so that a unit can end earlier
than it did before. In a text, the characters U+BD800 to U+BDFFF stand for lone surrogates, as
`Text.surrogate?` says.

* `Request.restatement`: a request written out again.
* `Request.Keeps`: the units that none of this happens to.
* `Request.readsBack_iff`: which requests are read back from their restatements.
* `Request.not_forall_readsBack`: one that is not.
-/

namespace UnitConversion

open Text UnitText
open Numeral (IsGap IsNumeral)

/-! ### Reading a request -/

namespace Text

theorem endsFilled_trimChars (cs : List Char) : Request.EndsFilled (trimChars cs) :=
  getLast?_dropWhileEnd isBlank _

theorem Spaced.append {xs ys : List Char} (hxs : Spaced xs) (hys : Spaced ys)
    (hmeet : Request.EndsFilled xs ∨ ∀ c ∈ ys.head?, isBlank c = false) : Spaced (xs ++ ys) where
  space c hc := by
    rcases List.mem_append.1 hc with hc | hc
    · exact hxs.space c hc
    · exact hys.space c hc
  apart := by
    refine List.isChain_append.2 ⟨hxs.apart, hys.apart, fun a ha b hb => ?_⟩
    rintro ⟨hablank, hbblank⟩
    rcases hmeet with hends | hstarts
    · simp [hends a ha] at hablank
    · simp [hstarts b hb] at hbblank

end Text

/-- A printed number is a numeral that denotes the number. -/
theorem numericValue?_toChars {d : Decimal} (h : d.isFinite = true ∧ d.IsWritable) :
    numericValue? d.toChars = some d := by
  have hdecimal := Decimal.isDecimal_toChars h.1
  rw [numericValue?, trimChars_eq_self (Request.not_isBlank_of_isDecimal hdecimal),
    Numeral.ofChars?_eq_some_iff.2 (.decimal hdecimal)]
  exact Decimal.ofChars?_toChars h

namespace Request

theorem ofParts_eq_ok_iff {numeral source target text : List Char} {r : Request} :
    ofParts numeral source target text = .ok r ↔
      ∃ value, numericValue? numeral = some value ∧ normalChars source ≠ normalChars target ∧
        r = ⟨value, String.ofList (normalChars source), String.ofList (normalChars target),
          String.ofList text⟩ := by
  unfold ofParts
  cases numericValue? numeral with
  | none => simp
  | some value =>
      dsimp only
      split
      · next hsame => simp [hsame]
      · next hdifferent => simp [hdifferent, eq_comm]

/-- The lines that ask for something, and what they ask for. -/
theorem ofText_eq_ok_iff {limit : Int} {line : String} {r : Request} :
    ofText limit line = .ok r ↔
      trimChars line.toList ≠ [] ∧ ((trimChars line.toList).length : Int) ≤ limit ∧
        ∃ numeral source target, parts? (trimChars line.toList) = some (numeral, source, target) ∧
          ofParts numeral source target (trimChars line.toList) = .ok r := by
  unfold ofText
  dsimp only
  generalize trimChars line.toList = cs
  constructor
  · intro h
    split at h
    · cases h
    · next hempty =>
        split at h
        · cases h
        · next hlength =>
            split at h
            · cases h
            · next numeral source target hparts =>
                exact ⟨by simpa using hempty, not_lt.1 hlength, numeral, source, target, hparts, h⟩
  · rintro ⟨hempty, hlength, numeral, source, target, hparts, h⟩
    rw [if_neg (by simpa using hempty), if_neg (not_lt.2 hlength), hparts]
    exact h

/-! ### Restatements -/

/-- A request written out again. -/
def restatement (r : Request) : String :=
  r.value.toText ++ " " ++ r.source ++ " to " ++ r.target

/-- Whether the restatement of a request is read as a request for the same number and the same
units. -/
def ReadsBack (limit : Int) (r : Request) : Prop :=
  ∃ r', ofText limit r.restatement = .ok r' ∧ r'.value.sameValue r.value = true ∧
    r'.source = r.source ∧ r'.target = r.target

/-- Whether the normal forms of two units can stand for them in a line: no character leaves the
alphabet of units, and no ordinal sign follows a word of the first unit that could stand between
units. -/
structure Keeps (source target : List Char) : Prop where
  dot : '·' ∉ source ∧ '·' ∉ target
  dotted : 'İ' ∉ source ∧ 'İ' ∉ target
  ordinal : ¬HasWordBefore (· = 'º') source

/-- What follows the number in a restatement. -/
def restatedUnits (source target : List Char) : List Char :=
  source ++ ([' '] ++ (['t', 'o'] ++ ([' '] ++ target)))

theorem toList_restatement (value : Decimal) (source target : List Char) (text : String) :
    (restatement ⟨value, String.ofList source, String.ofList target, text⟩).toList =
      value.toChars ++ ([' '] ++ restatedUnits source target) := by
  simp [restatement, restatedUnits, Decimal.toText]

theorem isConnective_to : IsConnective ['t', 'o'] :=
  ⟨'t', 'o', rfl, by decide⟩

/-- A normal form that starts as units do. -/
structure IsNormalUnit (cs : List Char) : Prop where
  normal : IsNormal cs
  start : ∃ first others, cs = first :: others ∧ isUnitStart first = true

namespace IsNormalUnit

variable {cs : List Char}

theorem of_isUnit (hunit : IsUnit cs) (hfilled : EndsFilled cs) : IsNormalUnit (normalChars cs) :=
  ⟨isNormal_normalChars cs, (settles_normalChars hunit.head?_filled hfilled).exists_unitStart hunit⟩

theorem ne_nil (h : IsNormalUnit cs) : cs ≠ [] := by
  obtain ⟨first, others, rfl, -⟩ := h.start
  simp

theorem head?_filled (h : IsNormalUnit cs) : ∀ c ∈ cs.head?, isBlank c = false := by
  obtain ⟨first, others, rfl, hfirst⟩ := h.start
  simpa using not_isBlank_of_unitStart hfirst

theorem endsFilled (h : IsNormalUnit cs) : EndsFilled cs :=
  h.normal.trimmed ▸ endsFilled_trimChars cs

end IsNormalUnit

section

variable {source target : List Char}

/-- The units of a restatement are divided where they were put together, if the first one does not
end earlier. -/
theorem shortestTail_restatedUnits_iff (hsource : IsUnit source) (htarget : IsUnit target) :
    ShortestTail (restatedUnits source target) source target ↔
      EndsFilled source ∧ ¬EndsInWord source ∧ ¬HasWordBefore (isUnitStart · = true) source :=
  shortestTail_iff hsource isGap_space isConnective_to isGap_space htarget

theorem endsFilled_restatedUnits (htarget : IsNormalUnit target) :
    EndsFilled (restatedUnits source target) :=
  (((htarget.endsFilled.append htarget.ne_nil).append (by simp)).append (by simp)).append (by simp)

/-- What follows the number in a restatement of normal forms has only characters of normal forms,
and no blanks side by side. -/
theorem restatedUnits_normal (hsource : IsNormalUnit source) (htarget : IsNormalUnit target) :
    (∀ c ∈ restatedUnits source target, IsSettled c) ∧ Spaced (restatedUnits source target) := by
  have hto : IsSettled ' ' ∧ IsSettled 't' ∧ IsSettled 'o' := by
    unfold IsSettled
    decide
  have hword : Spaced [' ', 't', 'o', ' '] :=
    (by decide : collapseBlanks [' ', 't', 'o', ' '] = [' ', 't', 'o', ' ']) ▸
      spaced_collapseBlanks _
  constructor
  · simp only [restatedUnits, List.forall_mem_append, List.forall_mem_cons, List.not_mem_nil,
      IsEmpty.forall_iff, implies_true, and_true]
    exact ⟨hsource.normal.settled, hto.1, hto.2, hto.1, htarget.normal.settled⟩
  · exact hsource.normal.spaced.append
      (hword.append htarget.normal.spaced (.inr htarget.head?_filled)) (.inl hsource.endsFilled)

/-- Units that are found in a restatement of normal forms are normal forms. -/
theorem isNormal_of_shortestTail {source' target' : List Char} (hsource : IsNormalUnit source)
    (htarget : IsNormalUnit target)
    (h : ShortestTail (restatedUnits source target) source' target') :
    IsNormal source' ∧ IsNormal target' := by
  obtain ⟨hsettled, hspaced⟩ := restatedUnits_normal hsource htarget
  have hend : EndsFilled (restatedUnits source target) := endsFilled_restatedUnits htarget
  obtain ⟨behind, heq, hsource', hfound⟩ := h.1
  obtain ⟨gap, word, gap', rfl, hgap, hword, hgap', htarget'⟩ := (targetOf?_eq_some_iff ..).1 hfound
  generalize restatedUnits source target = tail at heq h hend hsettled hspaced
  subst heq
  obtain ⟨hfilled, -⟩ := (shortestTail_iff hsource' hgap hword hgap' htarget').1 h
  simp only [List.forall_mem_append] at hsettled
  have hinfix : source' <:+: source' ++ (gap ++ (word ++ (gap' ++ target'))) :=
    List.infix_append' [] _ _
  have hsuffix : target' <:+ source' ++ (gap ++ (word ++ (gap' ++ target'))) :=
    ⟨source' ++ (gap ++ (word ++ gap')), by simp⟩
  constructor
  · exact ⟨hsettled.1, hspaced.of_isInfix hinfix, trimChars_of_filled hsource'.head?_filled hfilled⟩
  · exact ⟨hsettled.2.2.2.2, hspaced.of_isInfix hsuffix.isInfix,
      trimChars_of_filled htarget'.head?_filled hend.of_append.of_append.of_append.of_append⟩

/-! ### Requests that are read back -/

/-- A restatement of normal forms is read as the same request exactly when its units are found where
they stand. -/
theorem readsBack_iff_shortestTail {limit : Int} {value : Decimal} {text : String}
    (hvalue : value.isFinite = true ∧ value.IsWritable) (hsource : IsNormalUnit source)
    (htarget : IsNormalUnit target) (hdifferent : source ≠ target) (hlength : ((restatement
      ⟨value, String.ofList source, String.ofList target, text⟩).length : Int) ≤ limit) :
    ReadsBack limit ⟨value, String.ofList source, String.ofList target, text⟩ ↔
      ShortestTail (restatedUnits source target) source target := by
  have hchars := toList_restatement value source target text
  have hdecimal := Decimal.isDecimal_toChars hvalue.1
  have hhead : ∀ c ∈ (restatedUnits source target).head?, isUnitStart c = true := by
    obtain ⟨first, others, rfl, hfirst⟩ := hsource.start
    simpa [restatedUnits] using hfirst
  have hdivision := shortestDivision_append_iff (.inl hdecimal) isGap_space hhead
  have htrim : trimChars
      (restatement ⟨value, String.ofList source, String.ofList target, text⟩).toList =
      value.toChars ++ ([' '] ++ restatedUnits source target) := by
    rw [hchars]
    refine trimChars_of_filled ?_ (((endsFilled_restatedUnits htarget).append ?_).append ?_)
    · obtain ⟨c, cs, hcons⟩ := List.exists_cons_of_ne_nil (Numeral.IsDecimal.ne_nil hdecimal)
      have hblank := not_isBlank_of_isDecimal hdecimal c (by simp [hcons])
      simpa [hcons] using hblank
    · simp [restatedUnits]
    · simp
  constructor
  · rintro ⟨r', hr', -, hsource', htarget'⟩
    obtain ⟨-, -, numeral, source', target', hparts, hr'⟩ := ofText_eq_ok_iff.1 hr'
    obtain ⟨value', -, -, rfl⟩ := ofParts_eq_ok_iff.1 hr'
    rw [htrim, parts?_eq_some_iff] at hparts
    obtain ⟨rfl, -⟩ := (division_append_iff (.inl hdecimal) isGap_space hhead ..).1 hparts.1
    have htail := (hdivision source' target').1 hparts
    -- The units that were found are normal forms, so they are the ones that were written.
    obtain ⟨hnormal, hnormal'⟩ := isNormal_of_shortestTail hsource htarget htail
    dsimp only at hsource' htarget'
    rw [hnormal.normalChars_eq] at hsource'
    rw [hnormal'.normalChars_eq] at htarget'
    rwa [String.ofList_injective hsource', String.ofList_injective htarget'] at htail
  · intro htail
    have hparts := (parts?_eq_some_iff ..).2 ((hdivision source target).2 htail)
    refine ⟨_, ofText_eq_ok_iff.2 ⟨?_, ?_, value.toChars, source, target, ?_,
      ofParts_eq_ok_iff.2 ⟨value, numericValue?_toChars hvalue, ?_, rfl⟩⟩,
      (Decimal.sameValue_iff hvalue.1 hvalue.1).2 rfl, ?_, ?_⟩
    · simp [htrim]
    · rwa [htrim, ← hchars, String.length_toList]
    · rwa [htrim]
    · rwa [hsource.normal.normalChars_eq, htarget.normal.normalChars_eq]
    · rw [hsource.normal.normalChars_eq]
    · rw [htarget.normal.normalChars_eq]

/-- The normal forms of two units stand for them in a restatement exactly when the units keep what
they are. -/
theorem shortestTail_normalChars_iff (hsource : IsUnit source) (htarget : IsUnit target)
    (hfilled : EndsFilled source) (hfilled' : EndsFilled target) (hend : ¬EndsInWord source)
    (hinner : ¬HasWordBefore (isUnitStart · = true) source) :
    ShortestTail (restatedUnits (normalChars source) (normalChars target)) (normalChars source)
      (normalChars target) ↔ Keeps source target := by
  have hsettles := settles_normalChars hsource.head?_filled hfilled
  have hsettles' := settles_normalChars htarget.head?_filled hfilled'
  have hspaced := (isNormal_normalChars source).spaced
  have hunit := hsettles.isUnit_iff hsource
  have hunit' := hsettles'.isUnit_iff htarget
  constructor
  · intro h
    obtain ⟨behind, heq, hsource', hfound⟩ := h.1
    obtain rfl := List.append_cancel_left heq
    have htarget' := isUnit_of_targetOf? hfound
    obtain ⟨-, -, hinner'⟩ := (shortestTail_restatedUnits_iff hsource' htarget').1 h
    exact ⟨⟨(hunit.1 hsource').1, (hunit'.1 htarget').1⟩,
      ⟨(hunit.1 hsource').2, (hunit'.1 htarget').2⟩, mt hsettles.hasWordBefore_of_ordinal hinner'⟩
  · rintro ⟨⟨hdot, hdot'⟩, ⟨hdotted, hdotted'⟩, hordinal⟩
    refine (shortestTail_restatedUnits_iff (hunit.2 ⟨hdot, hdotted⟩) (hunit'.2 ⟨hdot', hdotted'⟩)).2
      ⟨hsettles.endsFilled hfilled, fun hword => hend (hsettles.endsInWord hspaced hword),
        fun hword => ?_⟩
    obtain ⟨before, gap, word, gap', first, after, heq, hgap, hconnective, hgap', hfirst⟩ :=
      hsettles.hasWordBefore hspaced hword
    rcases hfirst with hstart | hordinal'
    · exact hinner ⟨before, gap, word, gap', first, after, heq, hgap, hconnective, hgap', hstart⟩
    · exact hordinal ⟨before, gap, word, gap', first, after, heq, hgap, hconnective,
        hgap', hordinal'⟩

end

/-- A request is read back exactly when its units keep what they are. -/
theorem readsBack_iff {limit : Int} {line : String} {r : Request} (h : ofText limit line = .ok r)
    (hlength : (r.restatement.length : Int) ≤ limit) : ReadsBack limit r ↔
      ∀ numeral source target, ShortestDivision (trimChars line.toList) numeral source target →
        Keeps source target := by
  obtain ⟨-, -, numeral, source, target, hparts, hr⟩ := ofText_eq_ok_iff.1 h
  obtain ⟨value, hvalue, hdifferent, rfl⟩ := ofParts_eq_ok_iff.1 hr
  have hshortest := (parts?_eq_some_iff ..).1 hparts
  obtain ⟨gap, gap', word, gap'', hline, hnumeral, hgap, hsource, hgap', hword, hgap'', htarget⟩ :=
    hshortest.1
  have hends := endsFilled_trimChars line.toList
  rw [hline] at hshortest hends
  obtain ⟨hfilled, hend, hinner⟩ := (shortestTail_iff hsource hgap' hword hgap'' htarget).1
    ((shortestDivision_append_iff hnumeral hgap (hsource.head? _) _ _).1 hshortest)
  have hfilled' := hends.of_append.of_append.of_append.of_append.of_append.of_append
  rw [readsBack_iff_shortestTail (Numeral.isWritable_of_numericValue? hvalue)
    (.of_isUnit hsource hfilled) (.of_isUnit htarget hfilled') hdifferent hlength,
    shortestTail_normalChars_iff hsource htarget hfilled hfilled' hend hinner]
  constructor
  · intro hkeeps numeral' source' target' hshortest'
    rw [(parts?_eq_some_iff ..).2 hshortest'] at hparts
    obtain ⟨rfl, rfl, rfl⟩ : numeral' = numeral ∧ source' = source ∧ target' = target := by
      simpa using hparts
    exact hkeeps
  · intro hkeeps
    exact hkeeps numeral source target ((parts?_eq_some_iff ..).1 hparts)

/-- Plain words stay what they are, in lower case. -/
theorem kilometres_readsBack :
    ofText 256 "5 KM to ft" = .ok ⟨.finite false 5 0, "km", "ft", "5 KM to ft"⟩ ∧
    ReadsBack 256 ⟨.finite false 5 0, "km", "ft", "5 KM to ft"⟩ := by
  obtain ⟨hread, hlength, hparts⟩ : ofText 256 "5 KM to ft" =
    .ok ⟨.finite false 5 0, "km", "ft", "5 KM to ft"⟩ ∧
      ((restatement ⟨.finite false 5 0, "km", "ft", "5 KM to ft"⟩).length : Int) ≤ 256 ∧
      parts? (trimChars "5 KM to ft".toList) = some (['5'], ['K', 'M'], ['f', 't']) := by
    decide +kernel
  refine ⟨hread, (readsBack_iff hread hlength).2 fun numeral source target hshortest => ?_⟩
  rw [(parts?_eq_some_iff ..).2 hshortest] at hparts
  obtain ⟨rfl, rfl, rfl⟩ : numeral = ['5'] ∧ source = ['K', 'M'] ∧ target = ['f', 't'] := by
    simpa using hparts
  exact ⟨by decide, by decide, not_hasWordBefore_of_filled (by simpa using ⟨by decide, by decide⟩)⟩

/-- The unit of a thermal conductivity is read with a dot, and it is not read with the star that its
normal form has. -/
theorem not_forall_readsBack :
    ¬∀ (limit : Int) (line : String) (r : Request), ofText limit line = .ok r →
    (r.restatement.length : Int) ≤ limit → ReadsBack limit r := by
  intro h
  obtain ⟨hread, hlength, hrefused⟩ :
      ofText 256 "5 W/m·K to btu" = .ok ⟨.finite false 5 0, "w/m*k", "btu", "5 W/m·K to btu"⟩ ∧
      ((restatement ⟨.finite false 5 0, "w/m*k", "btu", "5 W/m·K to btu"⟩).length : Int) ≤ 256 ∧
      ofText 256 (restatement ⟨.finite false 5 0, "w/m*k", "btu", "5 W/m·K to btu"⟩) =
        .error (Problem.invalidFormat none) := by
    decide +kernel
  obtain ⟨r', hreread, -⟩ := h 256 _ _ hread hlength
  rw [hrefused] at hreread
  cases hreread

end Request

end UnitConversion
