import UnitConversion.Proofs.Association
import UnitConversion.Proofs.Settings
import UnitConversion.Service.Site

/-!
# The site is read leniently

The limit of bodies is configured in mebibytes. A value that does not say a number of bytes is
ignored, unless what it says is beyond all doubles: then the site cannot be read at all.

* `Service.Site.ofJson_withoutLimit`, `Service.Site.ofJson_of_overflows`: what becomes of a
  configuration in the two cases.
* `Service.Site.ignored_iff`: which of the values that say no number of bytes are ignored.
* `Service.Site.reads_leniently`: the settings of conversions and the limit of bodies, whatever is
  configured.
* `Service.Site.not_lenient`: values that stop the reading.
-/

namespace UnitConversion.Service.Site

/-! ### Limits that say nothing -/

/-- The number of bytes that a value says. -/
def bytes? (value : Json) : Option Binary64 :=
  (Settings.asDouble? value).map (Binary64.scaleUp 20)

/-- A value that does not say a finite number of bytes. -/
def Malformed (value : Json) : Prop :=
  ∀ bytes ∈ bytes? value, bytes.isFinite = false

/-- A value that says more bytes, or fewer ones, than doubles can be. -/
def Overflows (value : Json) : Prop :=
  ∃ s, bytes? value = some (.infinite s)

variable {value : Json} {configuration site : List (String × Json)}

theorem overflows_of_isHuge (h : Settings.isHuge value = true) : Overflows value := by
  cases value with
  | integer i =>
      have hfinite : (Binary64.ofInt i).isFinite = false := by simpa [Settings.isHuge] using h
      have hdouble : Binary64.ofInt i = .infinite (i < 0) :=
        (Binary64.nearest_eq_infinite_or (i < 0) i.natAbs 1).resolve_right
          (Bool.eq_false_iff.1 hfinite)
      exact ⟨i < 0, by rw [bytes?, Settings.asDouble?, hdouble]; rfl⟩
  | _ => cases h

theorem bytesOf_of_overflows (h : Overflows value) :
    bytesOf value = .error (.interruption .tooLarge) := by
  obtain ⟨s, hs⟩ := h
  unfold bytesOf
  split
  · rfl
  · rw [bytes?] at hs
    rw [hs]

theorem bytesOf_of_malformed (h : Malformed value) (hrange : ¬Overflows value) :
    bytesOf value = .ok standardLimit := by
  unfold bytesOf
  rw [if_neg fun hhuge => hrange (overflows_of_isHuge hhuge)]
  rw [Malformed, bytes?] at h
  rw [Overflows, bytes?] at hrange
  cases hbytes : (Settings.asDouble? value).map (Binary64.scaleUp 20) with
  | none => rfl
  | some bytes =>
      cases bytes with
      | finite s m e => cases h _ hbytes
      | infinite s => exact (hrange ⟨s, hbytes⟩).elim
      | nan => rfl

/-! ### Configurations without a limit -/

/-- The settings of a site without the limit of bodies. -/
def dropLimit : Json → Json
  | .object members => .object (members.filter fun member => member.1 != limitKey)
  | value => value

/-- A configuration whose site does not have a limit of bodies. -/
def withoutLimit (configuration : List (String × Json)) : List (String × Json) :=
  configuration.map fun group => (group.1, if group.1 = "site" then dropLimit group.2 else group.2)

theorem lookup_withoutLimit (configuration : List (String × Json)) (key : String) :
    (withoutLimit configuration).lookup key =
      (configuration.lookup key).map fun group => if key = "site" then dropLimit group else group :=
  Association.lookup_mapValues (fun key group => if key = "site" then dropLimit group else group)
    configuration key

theorem groupOf_object (members : List (String × Json)) :
    groupOf (some (.object members)) = .object members := by
  cases members <;> rfl

/-- A configuration is read group by group. -/
theorem ofJson_object (hsite : configuration.lookup "site" = some (.object site)) :
    ofJson (.object configuration) = do
      let limit ← limitOf (.object site)
      let plugins ← membersOf (groupOf (configuration.lookup "plugins"))
      let own := Settings.groupOf (plugins.lookup plugin)
      let settings ← Settings.ofMembers root own
      return ⟨nameOf (.object site), summaryOf own, limit, settings⟩ := by
  rw [ofJson, groupOf_object, membersOf]
  simp only [bind, Except.bind, hsite, groupOf_object]

/-- A limit that is read as the standard one can as well be left out. -/
theorem ofJson_withoutLimit (hsite : configuration.lookup "site" = some (.object site))
    (hvalue : site.lookup limitKey = some value) (hlimit : bytesOf value = .ok standardLimit) :
    ofJson (.object configuration) = ofJson (.object (withoutLimit configuration)) := by
  have hfilter := Association.lookup_filter_key (fun key => key != limitKey) site
  have hsite' : (withoutLimit configuration).lookup "site" =
      some (.object (site.filter fun member => member.1 != limitKey)) := by
    rw [lookup_withoutLimit, hsite]
    rfl
  have hplugins : (withoutLimit configuration).lookup "plugins" =
      configuration.lookup "plugins" := by
    rw [lookup_withoutLimit]
    simp
  have hwith : limitOf (.object site) = .ok standardLimit := by
    simp only [limitOf, hvalue, hlimit]
  have hwithout : limitOf (.object (site.filter fun member => member.1 != limitKey)) =
      .ok standardLimit := by
    simp [limitOf, hfilter]
  have hname : nameOf (.object (site.filter fun member => member.1 != limitKey)) =
      nameOf (.object site) := by
    rw [nameOf, nameOf, hfilter, if_pos (by decide)]
  rw [ofJson_object hsite, ofJson_object hsite', hplugins, hwith, hwithout, hname]

/-- A limit beyond all doubles stops the reading. -/
theorem ofJson_of_overflows (hsite : configuration.lookup "site" = some (.object site))
    (hvalue : site.lookup limitKey = some value) (hoverflows : Overflows value) :
    ofJson (.object configuration) = .error (.interruption .tooLarge) := by
  have hlimit : limitOf (.object site) = .error (.interruption .tooLarge) := by
    simp only [limitOf, hvalue, bytesOf_of_overflows hoverflows]
  rw [ofJson_object hsite, hlimit]
  rfl

/-- A value is ignored if every configuration is read as if it did not have this value as its limit
of bodies. -/
def Ignored (value : Json) : Prop :=
  ∀ configuration site : List (String × Json), configuration.lookup "site" = some (.object site) →
    site.lookup limitKey = some value →
    ofJson (.object configuration) = ofJson (.object (withoutLimit configuration))

/-- A configuration of nothing but a limit of bodies. -/
def limited (value : Json) : List (String × Json) :=
  [("site", .object [(limitKey, value)])]

theorem exists_ofJson_unlimited (value : Json) :
    ∃ site, ofJson (.object (withoutLimit (limited value))) = .ok site :=
  ⟨_, rfl⟩

/-- Of the values that do not say a number of bytes, those are ignored that are not beyond all
doubles. -/
theorem ignored_iff (h : Malformed value) : Ignored value ↔ ¬Overflows value := by
  constructor
  · intro hignored hoverflows
    obtain ⟨site, hsite⟩ := exists_ofJson_unlimited value
    have hsame := hignored (limited value) _ rfl rfl
    rw [ofJson_of_overflows rfl rfl hoverflows, hsite] at hsame
    cases hsame
  · intro hrange configuration site hsite hvalue
    exact ofJson_withoutLimit hsite hvalue (bytesOf_of_malformed h hrange)

/-! ### Whatever is configured -/

variable {members : List (String × Json)} {directory : Option String}

/-- Where the directory can be read, there are settings if no number is too large for them, and
these make sense, every value that does not being replaced. Of the limits that do not say a number
of bytes, those are ignored that are not beyond all doubles. -/
theorem reads_leniently {path : String}
    (hdirectory : Settings.directoryOf path (members.lookup "config_dir") = .ok directory)
    (hmalformed : Malformed value) :
    ((∃ settings, Settings.ofJson path (.object members) = .ok settings) ↔
      Settings.Readable members) ∧
      (∀ settings, Settings.ofJson path (.object members) = .ok settings →
        settings.Sound ∧ Settings.Reads members settings) ∧
      (Ignored value ↔ ¬Overflows value) := by
  rw [Settings.ofJson_object]
  refine ⟨Settings.exists_ofMembers_iff hdirectory, fun settings hsettings => ?_,
    ignored_iff hmalformed⟩
  have hreads := Settings.reads_of_ofMembers hsettings
  exact ⟨hreads.sound, hreads⟩

/-- Members that hardly make sense. -/
def oddMembers : List (String × Json) :=
  [("max_lines", .text "many"),
    ("suggestions", .object [("max_results", .integer (-5)), ("min_similarity", .real .nan)]),
    ("formatting", .object [("exponential_upper", .list []),
      ("exponential_lower", .real (.infinite false))])]

theorem oddMembers_read_leniently :
    Settings.directoryOf "/" (oddMembers.lookup "config_dir") = .ok none ∧ Malformed (.text "big") ∧
      ((∃ settings, Settings.ofJson "/" (.object oddMembers) = .ok settings) ↔
        Settings.Readable oddMembers) ∧
      (∀ settings, Settings.ofJson "/" (.object oddMembers) = .ok settings →
        settings.Sound ∧ Settings.Reads oddMembers settings) ∧
      (Ignored (.text "big") ↔ ¬Overflows (.text "big")) := by
  have hdirectory : Settings.directoryOf "/" (oddMembers.lookup "config_dir") = .ok none := rfl
  have hbytes : bytes? (.text "big") = none := by decide
  have hmalformed : Malformed (.text "big") := by simp [Malformed, hbytes]
  exact ⟨hdirectory, hmalformed, reads_leniently hdirectory hmalformed⟩

/-- Members with a similarity beyond all doubles. -/
def vastSimilarity : List (String × Json) :=
  [("suggestions", .object [("min_similarity", .integer (10 ^ 400))])]

/-- Neither such a similarity nor an infinite limit of bodies is tolerated. -/
theorem not_lenient :
    Settings.directoryOf "/" (vastSimilarity.lookup "config_dir") = .ok none ∧
      (¬∃ settings, Settings.ofJson "/" (.object vastSimilarity) = .ok settings) ∧
      Malformed (.text "inf") ∧ ¬Ignored (.text "inf") := by
  have hdirectory : Settings.directoryOf "/" (vastSimilarity.lookup "config_dir") = .ok none := rfl
  have hbytes : bytes? (.text "inf") = some (.infinite false) := by decide
  have hmalformed : Malformed (.text "inf") := by simp [Malformed, hbytes, Binary64.isFinite]
  refine ⟨hdirectory, ?_, hmalformed, fun hignored =>
    (ignored_iff hmalformed).1 hignored ⟨false, hbytes⟩⟩
  rw [Settings.ofJson_object, Settings.exists_ofMembers_iff hdirectory]
  intro hreadable
  have hsmall := hreadable.minSimilarity (10 ^ 400) rfl
  have hlarge : Binary64.rangeEnd < |((10 ^ 400 : Int) : Rat)| := by
    rw [Int.cast_pow, abs_of_pos (by positivity)]
    exact_mod_cast Binary64.rangeEnd_lt_ten_pow
  exact absurd hsmall hlarge.not_gt

end UnitConversion.Service.Site
