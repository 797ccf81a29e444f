import UnitConversion.Proofs.Binary64.Order
import UnitConversion.Proofs.Catalog.Index
import UnitConversion.Proofs.Conversion.Ratio
import UnitConversion.Proofs.Suggestion.EditDistance
import UnitConversion.Suggestion.Similar

/-!
# Similar names are ranked

The names that are suggested for a text are those names of a registry that are more similar to it
than the limit: the most similar first, equally similar ones by their characters, and no more of
them than are asked for. Similarities are finite doubles, so this is a strict total order of the
names. In a text, the characters U+BD800 to U+BDFFF stand for lone surrogates, as `Text.surrogate?`
says.

* `Suggestion.isFinite_similarity`: similarities are finite.
* `Suggestion.similarNames_eq`: suggestions are the first of the sorted candidates.
* `Suggestion.ranks_of_load`: how the names of a registry that was loaded are suggested.
-/

namespace UnitConversion

namespace Suggestion

/-! ### Similarities -/

theorem isFinite_complement {x : Binary64} (hx : x.isFinite = true) :
    x.complement.isFinite = true := by
  obtain ⟨s, m, e, rfl⟩ := Binary64.exists_of_isFinite hx
  have hone : (0 : Rat) < ((2 ^ (-e).toNat : Nat) : Rat) := by positivity
  refine (Binary64.isFinite_nearest_iff false _ (by positivity)).2 ?_
  have hle : ((2 ^ (-e).toNat - m * 2 ^ e.toNat : Nat) : Rat) /
      ((2 ^ (-e).toNat : Nat) : Rat) ≤ 1 := by
    rw [div_le_one hone]
    exact_mod_cast Nat.sub_le _ _
  exact hle.trans_lt Binary64.one_lt_rangeEnd

/-- The similarity of two texts is finite. -/
theorem isFinite_similarity (a b : List Char) : (similarity a b).isFinite = true := by
  unfold similarity
  dsimp only
  split
  · decide
  · next hlonger =>
      have hpos : (0 : Rat) < (max a.length b.length : Nat) := by
        exact_mod_cast Nat.pos_of_ne_zero hlonger
      refine isFinite_complement ((Binary64.isFinite_nearest_iff false _ hlonger).2 ?_)
      have hdistance : (distance a b : Rat) ≤ 1 * (max a.length b.length : Nat) := by
        rw [one_mul]
        exact_mod_cast distance_le_max a b
      exact ((div_le_iff₀ hpos).2 hdistance).trans_lt Binary64.one_lt_rangeEnd

/-! ### The order of suggestions -/

/-- How similar a name is to a text, as a number. -/
def nearness (query : List Char) (name : String) : Rat :=
  (similarity query name.toList).number

/-- Whether a name is suggested before another one: it is more similar, or equally similar and first
by the order of characters. -/
def IsBefore (query : List Char) (a b : String) : Prop :=
  nearness query b < nearness query a ∨ nearness query a = nearness query b ∧ a < b

/-- Whether a name is not suggested behind another one. -/
def notBehind (query : List Char) (a b : String) : Bool :=
  precedes (similarity query a.toList, a) (similarity query b.toList, b)

theorem notBehind_iff {query : List Char} {a b : String} :
    notBehind query a b = true ↔ IsBefore query a b ∨ a = b := by
  have ha := isFinite_similarity query a.toList
  have hb := isFinite_similarity query b.toList
  simp only [notBehind, precedes, Bool.or_eq_true, Bool.and_eq_true, Binary64.lt_iff hb ha,
    Binary64.sameValue_iff ha hb, decide_eq_true_eq, IsBefore, nearness, le_iff_lt_or_eq]
  constructor
  · rintro (hmore | ⟨hsame, hlt | rfl⟩)
    · exact .inl (.inl hmore)
    · exact .inl (.inr ⟨hsame, hlt⟩)
    · exact .inr rfl
  · rintro ((hmore | ⟨hsame, hlt⟩) | rfl)
    · exact .inl hmore
    · exact .inr ⟨hsame, .inl hlt⟩
    · exact .inr ⟨rfl, .inr rfl⟩

namespace IsBefore

variable {query : List Char} {a b c : String}

theorem ne (h : IsBefore query a b) : a ≠ b := by
  rintro rfl
  rcases h with h | ⟨-, h⟩
  · exact lt_irrefl _ h
  · exact lt_irrefl _ h

theorem trans (hab : IsBefore query a b) (hbc : IsBefore query b c) : IsBefore query a c := by
  rcases hab with hab | ⟨hab, hlt⟩
  · rcases hbc with hbc | ⟨hbc, -⟩
    · exact .inl (hbc.trans hab)
    · exact .inl (hbc ▸ hab)
  · rcases hbc with hbc | ⟨hbc, hlt'⟩
    · exact .inl (hab ▸ hbc)
    · exact .inr ⟨hab.trans hbc, hlt.trans hlt'⟩

theorem total (query : List Char) (a b : String) :
    IsBefore query a b ∨ a = b ∨ IsBefore query b a := by
  rcases lt_trichotomy (nearness query a) (nearness query b) with h | h | h
  · exact .inr (.inr (.inl h))
  · rcases lt_trichotomy a b with hlt | rfl | hlt
    · exact .inl (.inr ⟨h, hlt⟩)
    · exact .inr (.inl rfl)
    · exact .inr (.inr (.inr ⟨h.symm, hlt⟩))
  · exact .inl (.inl h)

end IsBefore

/-- The sorted names stand one before the other. -/
theorem pairwise_isBefore {query : List Char} {names : List String} (hnodup : names.Nodup) :
    (names.mergeSort (notBehind query)).Pairwise (IsBefore query) := by
  have htrans (a b c : String) (hab : notBehind query a b = true)
      (hbc : notBehind query b c = true) :
      notBehind query a c = true := by
    rw [notBehind_iff] at hab hbc ⊢
    rcases hab with hab | rfl
    · rcases hbc with hbc | rfl
      · exact .inl (hab.trans hbc)
      · exact .inl hab
    · exact hbc
  have htotal (a b : String) : (notBehind query a b || notBehind query b a) = true := by
    rw [Bool.or_eq_true, notBehind_iff, notBehind_iff]
    rcases IsBefore.total query a b with h | rfl | h
    · exact .inl (.inl h)
    · exact .inl (.inr rfl)
    · exact .inr (.inl h)
  have hdistinct : (names.mergeSort (notBehind query)).Nodup :=
    (List.mergeSort_perm _ _).nodup_iff.2 hnodup
  refine ((List.pairwise_mergeSort htrans htotal names).and hdistinct).imp fun h => ?_
  exact (notBehind_iff.1 h.1).resolve_right h.2

/-! ### Suggestions -/

/-- The names of an index that are more similar to a text than the limit. -/
def candidates (index : AliasIndex) (query : List Char) (limit : Binary64) : List String :=
  (index.map Prod.fst).filter fun name => Binary64.lt limit (similarity query name.toList)

theorem scored_eq (index : AliasIndex) (query : List Char) (limit : Binary64) :
    scored index query limit =
      (candidates index query limit).map fun name => (similarity query name.toList, name) := by
  simp only [scored, candidates, List.filter_map, List.map_map]
  rfl

/-- The suggestions for a text are the first of the sorted candidates. -/
theorem similarNames_eq {registry : Registry} {query : String} {limits : Limits}
    (hquery : UnitText.normalChars query.toList ≠ []) :
    similarNames (some registry) (.text query) limits =
      ((candidates registry.aliases (UnitText.normalChars query.toList) limits.similarity).mergeSort
        (notBehind (UnitText.normalChars query.toList))).take limits.count.toNat := by
  have hempty : (UnitText.normalChars query.toList).isEmpty = false := by simpa using hquery
  simp only [similarNames, hempty, Bool.false_eq_true, if_false, scored_eq]
  generalize UnitText.normalChars query.toList = normal
  rw [← List.map_mergeSort (r := notBehind normal) (f := fun name =>
    (similarity normal name.toList, name)) fun a _ b _ => rfl, List.map_take, List.map_map]
  exact congrArg _ (List.map_id _)

/-- How names of a registry are suggested for a text in normal form. -/
structure Ranks (registry : Registry) (query : List Char) (limits : Limits)
    (names : List String) : Prop where
  nodup : names.Nodup
  /-- Names of the registry are suggested that are more similar than the limit. -/
  similar : ∀ name ∈ names, name ∈ registry.aliases.map Prod.fst ∧
    Binary64.lt limits.similarity (similarity query name.toList) = true
  ordered : names.Pairwise (IsBefore query)
  /-- There are as many as are asked for, or all of them. -/
  length : (names.length : Int) =
    min (max limits.count 0) ((registry.aliases.map Prod.fst).countP fun name =>
    Binary64.lt limits.similarity (similarity query name.toList))
  /-- Whatever is left out is behind all that is not. -/
  best : ∀ name ∈ registry.aliases.map Prod.fst,
    Binary64.lt limits.similarity (similarity query name.toList) = true → name ∉ names →
      ∀ suggested ∈ names, IsBefore query suggested name
  /-- A suggestion can be used: it is found under just this name. -/
  resolved : ∀ name ∈ names, ∃ ref, registry.resolve? (.text name) = some ref ∧
    (name, ref) ∈ registry.aliases

variable {directory : Directory} {wanted : List Json} {registry : Registry}

/-- Every name in a registry that was loaded is found in it. -/
theorem resolve?_of_load (hload : (Registry.load directory wanted).outcome = .ok registry)
    {name : String} (hname : name ∈ registry.aliases.map Prod.fst) :
    ∃ ref, registry.resolve? (.text name) = some ref ∧ (name, ref) ∈ registry.aliases := by
  obtain ⟨⟨name, ref⟩, hentry, rfl⟩ := List.mem_map.1 hname
  have hnormal := (Registry.wellFormed_of_load hload).normal _ hentry
  refine ⟨ref, ?_, hentry⟩
  rw [Registry.resolve?, hnormal]
  obtain ⟨selected, categories, -, -, -, rfl⟩ := Registry.load_eq_ok_iff.1 hload
  exact AliasIndex.mem_build_iff.1 hentry

/-- The suggestions for a text out of a registry that was loaded are the names in it that are more
similar than the limit, in their order, cut off behind the number that is asked for; each of them
can be used. -/
theorem ranks_of_load (hload : (Registry.load directory wanted).outcome = .ok registry)
    {query : String} (hquery : UnitText.normalize query ≠ "") (limits : Limits) :
    Ranks registry (UnitText.normalChars query.toList) limits
      (similarNames (some registry) (.text query) limits) := by
  have hnormal : UnitText.normalChars query.toList ≠ [] := by
    rintro h
    rw [UnitText.normalize, h] at hquery
    exact hquery rfl
  have hnodup : (registry.aliases.map Prod.fst).Nodup := by
    obtain ⟨selected, categories, -, -, -, rfl⟩ := Registry.load_eq_ok_iff.1 hload
    exact AliasIndex.nodup_build categories
  rw [similarNames_eq hnormal]
  generalize UnitText.normalChars query.toList = normal
  have hcandidates : (candidates registry.aliases normal limits.similarity).Nodup := hnodup.filter _
  have hmem {name : String} : name ∈
      (candidates registry.aliases normal limits.similarity).mergeSort (notBehind normal) ↔
        name ∈ registry.aliases.map Prod.fst ∧
        Binary64.lt limits.similarity (similarity normal name.toList) = true := by
    rw [List.mem_mergeSort, candidates, List.mem_filter]
  have hlength : ((candidates registry.aliases normal limits.similarity).mergeSort
      (notBehind normal)).length = (registry.aliases.map Prod.fst).countP fun name =>
        Binary64.lt limits.similarity (similarity normal name.toList) := by
    rw [List.length_mergeSort, candidates, List.countP_eq_length_filter]
  have hordered : (_ : List String).Pairwise (IsBefore normal) := pairwise_isBefore hcandidates
  generalize (candidates registry.aliases normal limits.similarity).mergeSort
    (notBehind normal) = sorted at *
  have htaken {name : String} (hname : name ∈ sorted.take limits.count.toNat) :=
    hmem.1 (List.mem_of_mem_take hname)
  -- The order splits where the list is cut.
  have hcut := hordered
  rw [← List.take_append_drop limits.count.toNat sorted, List.pairwise_append] at hcut
  constructor
  case nodup => exact hcut.1.imp IsBefore.ne
  case similar => exact fun name hname => htaken hname
  case ordered => exact hcut.1
  case length =>
    rw [List.length_take, hlength]
    omega
  case best =>
    intro name hname hsimilar hleft suggested hsuggested
    have hrest : name ∈ sorted.drop limits.count.toNat := by
      have hall := hmem.2 ⟨hname, hsimilar⟩
      rw [← List.take_append_drop limits.count.toNat sorted] at hall
      exact (List.mem_append.1 hall).resolve_left hleft
    exact hcut.2.2 suggested hsuggested name hrest
  case resolved => exact fun name hname => resolve?_of_load hload (htaken hname).1

/-- Of the two names that are similar enough, the more similar one is suggested where one is asked
for. -/
theorem foot_ranks :
    (Registry.load Conversion.customaryDirectory [.text "length"]).outcome =
      .ok Conversion.customary ∧
    UnitText.normalize "Fot" ≠ "" ∧
    similarNames (some Conversion.customary) (.text "Fot") ⟨1, standardSimilarity⟩ = ["foot"] ∧
    Ranks Conversion.customary "fot".toList ⟨1, standardSimilarity⟩ ["foot"] := by
  have hquery : UnitText.normalize "Fot" ≠ "" := by decide
  have hranks := ranks_of_load Conversion.load_customary hquery ⟨1, standardSimilarity⟩
  have hnormal : UnitText.normalChars "Fot".toList = "fot".toList := by decide
  have hscored : scored Conversion.customary.aliases "fot".toList standardSimilarity =
      [(.finite false 6004799503160662 (-53), "ft"),
        (.finite false 6755399441055744 (-53), "foot")] := by
    decide +kernel
  have hfound : similarNames (some Conversion.customary) (.text "Fot") ⟨1, standardSimilarity⟩ =
      ["foot"] := by
    simp only [similarNames, hnormal, hscored]
    simp [List.mergeSort, List.MergeSort.Internal.splitInTwo, precedes, Binary64.lt,
      Binary64.sameValue, Binary64.compare?, Binary64.compareFinite, Decimal.signed,
      compare_lt_iff_lt]
  rw [hfound, hnormal] at hranks
  exact ⟨Conversion.load_customary, hquery, hfound, hranks⟩

end Suggestion

end UnitConversion
