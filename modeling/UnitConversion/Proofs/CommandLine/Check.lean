import UnitConversion.CommandLine.Commands
import UnitConversion.Proofs.Association
import UnitConversion.Proofs.Catalog.Bundled
import UnitConversion.Proofs.Catalog.Registry
import UnitConversion.Proofs.Catalog.Verdict
import UnitConversion.Proofs.Settings

/-!
# Checking a directory and loading it

A check looks at each document by itself and compares the name of its file with the category field
as it is written; a loading takes the field without the spacing around it. So where no category
field has such spacing, a document passes the check if it loads, and a directory passes if it has a
registry. A directory without documents has none, though there is nothing in it that a check could
reject.

* `CommandLine.Report.ofFile_valid_iff`: a document passes if it loads.
* `CommandLine.exists_check_zero_iff`: a directory passes if each of its documents does.
* `CommandLine.check_mark`: what the printed report says about each document.
* `CommandLine.check_agrees_with_load`: the check of a directory and its registry.
* `CommandLine.check_disagrees_with_load`: they disagree on a directory without documents, on
  spacing around a category field, and beside a file that is no text.
-/

namespace UnitConversion

namespace CommandLine

/-- Whether the category field of the document under a name has no spacing around it, if it is a
text. -/
def PlainlyNamed (directory : Directory) (name : String) : Prop :=
  ∀ document s, directory.readDocument name = .ok document →
    document.get? "category" = some (.text s) →
    Text.trimSpacing s.toList = s.toList

namespace Report

theorem names_iff {document : Json} {name : String} :
    names document name = true ↔ document.get? "category" = some (.text name) := by
  unfold names
  cases h : document.get? "category" with
  | none => simp [Json.isText]
  | some value => simp [Json.isText_iff]

/-- The name that a description gives is the category field, if this has no spacing around it. -/
theorem names_iff_of_plain {document : Json} {d : CategoryDescription}
    (hd : Category.describeDocument document = .ok d)
    (hplain : ∀ s, document.get? "category" = some (.text s) → Text.trimSpacing s.toList = s.toList)
    (name : String) : names document name = true ↔ d.category = name := by
  obtain ⟨raw, hraw, hcategory⟩ := Category.category_of_describeDocument hd
  rw [names_iff, hraw, hcategory, hplain raw hraw, String.ofList_toList]
  simp

theorem ofDocument_valid_iff {document : Json} {name : String}
    (hplain : ∀ s, document.get? "category" = some (.text s) →
      Text.trimSpacing s.toList = s.toList) :
    (∃ r, ofDocument document name = .ok r ∧ r.valid = true) ↔
      ∃ category, Category.ofDocument document (.text name) = .ok category ∧
        ∃ findings, category.audit = .ok findings := by
  constructor
  · rintro ⟨r, hr, hvalid⟩
    obtain ⟨verdict, hverdict, hr⟩ := Formula.bind_eq_ok hr
    rw [Attempt.ofInterrupted_eq_ok_iff] at hverdict
    cases verdict with
    | invalid errors =>
        cases hr
        cases hvalid
    | valid warnings =>
        obtain ⟨category, hown, haudit⟩ := Category.validate_eq_valid_iff.1 hverdict
        obtain ⟨d, hd, hcategory⟩ := Category.isOwn_iff.1 hown
        dsimp only at hr
        split at hr
        · next hnames =>
            obtain rfl := (names_iff_of_plain hd hplain name).1 hnames
            refine ⟨category, ?_, warnings, haudit⟩
            rw [Category.ofDocument, hd]
            exact hcategory
        · obtain ⟨found, -, hr⟩ := Formula.bind_eq_ok hr
          cases hr
          cases hvalid
  · rintro ⟨category, hcategory, findings, haudit⟩
    obtain ⟨d, hd, hcategory⟩ := Formula.bind_eq_ok hcategory
    obtain ⟨hname, hcategory⟩ := Category.ofDescription_eq_ok_iff.1 hcategory
    have hverdict :=
      Category.validate_eq_valid_iff.2 ⟨category, Category.isOwn_iff.2 ⟨d, hd, hcategory⟩, haudit⟩
    have hnames := (names_iff_of_plain hd hplain name).2 (Json.text.inj hname).symm
    refine ⟨⟨true, [], findings⟩, ?_, rfl⟩
    simp only [ofDocument, hverdict, Attempt.ofInterrupted, bind, Except.bind, hnames, if_true]
    rfl

theorem ofFile_of_read {directory : Directory} {name : String} {document : Json}
    (hread : directory.readDocument name = .ok document) :
    ofFile directory name = ofDocument document name := by
  unfold ofFile
  rw [hread]

/-- A document under a name passes the check if it loads under this name. -/
theorem ofFile_valid_iff {directory : Directory} {name : String}
    (hplain : PlainlyNamed directory name) :
    (∃ r, ofFile directory name = .ok r ∧ r.valid = true) ↔
      Registry.Loads directory (.text name) := by
  simp only [Registry.Loads, Registry.loadCategory_eq_ok_iff, Registry.readNamed_text]
  cases hread : directory.readDocument name with
  | error failure =>
      unfold ofFile
      rw [hread]
      cases failure <;> simp
  | ok document =>
      have hdocument := @ofDocument_valid_iff document name fun s => hplain document s hread
      rw [ofFile_of_read hread]
      constructor
      · rintro ⟨r, hr, hvalid⟩
        obtain ⟨category, hcategory, haudit⟩ := hdocument.1 ⟨r, hr, hvalid⟩
        exact ⟨category, document, rfl, hcategory, haudit⟩
      · rintro ⟨category, document', hdocument', hcategory, haudit⟩
        obtain rfl := Except.ok.inj hdocument'
        exact hdocument.2 ⟨category, hcategory, haudit⟩

theorem ofDocument_ne_problem (document : Json) (name : String) (p : Problem) :
    ofDocument document name ≠ .error (.problem p) := by
  intro h
  obtain h | ⟨verdict, -, h⟩ := Formula.bind_eq_error h
  · exact Attempt.ofInterrupted_ne_problem _ p h
  · cases verdict with
    | invalid errors => cases h
    | valid warnings =>
        dsimp only at h
        split at h
        · cases h
        · obtain h | ⟨found, -, h⟩ := Formula.bind_eq_error h
          · cases (Json.shown_eq_error_iff.1 h).2
          · cases h

/-- Problems are reported, so a report is only interrupted. -/
theorem ofFile_ne_problem (directory : Directory) (name : String) (p : Problem) :
    ofFile directory name ≠ .error (.problem p) := by
  unfold ofFile
  cases hread : directory.readDocument name with
  | error failure => cases failure <;> simp
  | ok document => exact ofDocument_ne_problem document name p

end Report

variable {directory : Directory} {names : List String}

/-- All documents are reported as valid if each of them is. -/
theorem exists_reportEach_iff :
    (∃ reports, reportEach directory names = .ok reports ∧ reports.all (·.2.valid) = true) ↔
      ∀ name ∈ names, ∃ r, Report.ofFile directory name = .ok r ∧ r.valid = true := by
  induction names with
  | nil => simp [reportEach]
  | cons name names ih =>
      rw [List.forall_mem_cons, ← ih]
      constructor
      · rintro ⟨reports, hreports, hvalid⟩
        obtain ⟨r, hr, hreports⟩ := Formula.bind_eq_ok hreports
        obtain ⟨rest, hrest, hall⟩ := Formula.bind_eq_ok hreports
        cases hall
        simp only [List.all_cons, Bool.and_eq_true] at hvalid
        exact ⟨⟨r, hr, hvalid.1⟩, rest, hrest, hvalid.2⟩
      · rintro ⟨⟨r, hr, hvalid⟩, rest, hrest, hall⟩
        refine ⟨(name, r) :: rest, ?_, by simp [hvalid, hall]⟩
        simp only [reportEach, hr, hrest, bind, Except.bind]
        rfl

/-- Each report is the one on a document, and each document has one. -/
theorem reports_of_reportEach {reports : List (String × Report)}
    (h : reportEach directory names = .ok reports) :
    reports.map Prod.fst = names ∧ ∀ r ∈ reports, Report.ofFile directory r.1 = .ok r.2 := by
  induction names generalizing reports with
  | nil =>
      cases h
      exact ⟨rfl, by simp⟩
  | cons name names ih =>
      obtain ⟨r, hr, h⟩ := Formula.bind_eq_ok h
      obtain ⟨rest, hrest, hall⟩ := Formula.bind_eq_ok h
      cases hall
      obtain ⟨hnames, hreports⟩ := ih hrest
      refine ⟨by rw [List.map_cons, hnames], ?_⟩
      rw [List.forall_mem_cons]
      exact ⟨hr, hreports⟩

theorem reportEach_ne_problem (p : Problem) : reportEach directory names ≠ .error (.problem p) := by
  induction names with
  | nil => simp [reportEach]
  | cons name names ih =>
      intro h
      rw [reportEach] at h
      cases hr : Report.ofFile directory name with
      | error failure =>
          rw [hr] at h
          exact Report.ofFile_ne_problem directory name p
            (hr.trans (congrArg _ (Except.error.inj h)))
      | ok r =>
          cases hrest : reportEach directory names with
          | error failure =>
              rw [hr, hrest] at h
              exact ih (hrest.trans (congrArg _ (Except.error.inj h)))
          | ok rest =>
              rw [hr, hrest] at h
              cases h

/-- A check gives the reports on the documents that it discovers. -/
theorem check_eq_ok_iff {result : Result} :
    check directory [] = .ok result ↔ ∃ names reports, directory.discover = .ok names ∧
      reportEach directory names = .ok reports ∧
      result = ⟨if reports.all (·.2.valid) then 0 else 1, .object [
        ("valid", .bool (reports.all (·.2.valid))),
        ("categories",
          .object (reports.foldl (fun all r => Association.put all r.1 r.2.toJson) []))]⟩ := by
  constructor
  · intro h
    obtain ⟨names, hnames, h⟩ := Formula.bind_eq_ok h
    obtain ⟨reports, hreports, h⟩ := Formula.bind_eq_ok h
    exact ⟨names, reports, hnames, hreports, (Except.ok.inj h).symm⟩
  · rintro ⟨names, reports, hnames, hreports, rfl⟩
    simp only [check, List.isEmpty_nil, if_true, hnames, hreports, bind, Except.bind]
    rfl

/-- A directory passes the check if each of its documents does. -/
theorem exists_check_zero_iff :
    (∃ result, check directory [] = .ok result ∧ result.exit = 0) ↔
      ∃ names, directory.discover = .ok names ∧
        ∀ name ∈ names, ∃ r, Report.ofFile directory name = .ok r ∧ r.valid = true := by
  constructor
  · rintro ⟨result, hresult, hexit⟩
    obtain ⟨names, reports, hnames, hreports, rfl⟩ := check_eq_ok_iff.1 hresult
    refine ⟨names, hnames, exists_reportEach_iff.1 ⟨reports, hreports, ?_⟩⟩
    simpa using hexit
  · rintro ⟨names, hnames, hall⟩
    obtain ⟨reports, hreports, hvalid⟩ := exists_reportEach_iff.2 hall
    exact ⟨_, check_eq_ok_iff.2 ⟨names, reports, hnames, hreports, rfl⟩, by rw [hvalid]; rfl⟩

/-- What a printed report says about the document of a name. -/
def Result.mark? (result : Result) (name : String) : Option Json :=
  ((result.document.get? "categories").bind (Json.get? name)).bind (Json.get? "valid")

/-- The mark of each document is that of the report on it. -/
theorem check_mark {result : Result} (hnames : directory.discover = .ok names)
    (hresult : check directory [] = .ok result) {name : String} (hname : name ∈ names) :
    ∃ r, Report.ofFile directory name = .ok r ∧ result.mark? name = some (.bool r.valid) := by
  obtain ⟨names', reports, hnames', hreports, rfl⟩ := check_eq_ok_iff.1 hresult
  obtain rfl : names = names' := Except.ok.inj (hnames.symm.trans hnames')
  obtain ⟨hmap, hfiles⟩ := reports_of_reportEach hreports
  obtain ⟨entry, hentry, rfl⟩ := List.mem_map.1 (hmap ▸ hname)
  refine ⟨entry.2, hfiles entry hentry, ?_⟩
  have hlookup : ((reports.map fun r => (r.1, r.2.toJson)).foldl
      (fun all entry => Association.put all entry.1 entry.2) []).lookup entry.1 =
        some entry.2.toJson := by
    apply Association.lookup_foldl_put
    · -- Reports under one name are reports on one document.
      simp only [List.mem_map]
      rintro _ ⟨other, hother, rfl⟩ heq
      have hsame := (hfiles other hother).symm.trans ((congrArg _ heq).trans (hfiles entry hentry))
      rw [Except.ok.inj hsame]
    · right
      simp only [List.map_map, List.mem_map]
      exact ⟨entry, hentry, rfl⟩
  rw [List.foldl_map] at hlookup
  show ((Json.object _).get? entry.1).bind (Json.get? "valid") = _
  rw [Json.get?, hlookup]
  rfl

theorem check_ne_problem {p : Problem} (hnames : directory.discover = .ok names) :
    check directory [] ≠ .error (.problem p) := by
  intro h
  simp only [check, List.isEmpty_nil, if_true, hnames, bind, Except.bind, pure, Except.pure] at h
  cases hreports : reportEach directory names with
  | error failure =>
      rw [hreports] at h
      exact reportEach_ne_problem p (hreports.trans (congrArg _ (Except.error.inj h)))
  | ok reports => simp [hreports] at h

/-- An invocation configures the directory only. -/
theorem Invocation.settings_categories {invocation : Invocation} {root : String}
    {settings : Settings} (h : invocation.settings root = .ok settings) :
    settings.categories = [] := by
  have hmembers {members : List (String × Json)} (hnone : members.lookup "categories" = none)
      (h : Settings.ofMembers root members = .ok settings) : settings.categories = [] := by
    obtain ⟨-, hcategories, -⟩ := Settings.ofMembers_eq_ok_iff.1 h
    rw [hnone] at hcategories
    exact (Except.ok.inj hcategories).symm
  unfold Invocation.settings at h
  split at h
  · exact hmembers rfl h
  · exact hmembers rfl h

/-- A problem is described with the exit code one. -/
theorem ofAttempt_zero_iff {attempt : Attempt Result} :
    (∃ r, Result.ofAttempt attempt = .ok r ∧ r.exit = 0) ↔ ∃ r, attempt = .ok r ∧ r.exit = 0 := by
  cases attempt with
  | ok r => simp [Result.ofAttempt]
  | error failure => cases failure <;> simp [Result.ofAttempt, Result.ofProblem]

theorem run_check {invocation : Invocation} {library : Library} {root input : String}
    {session : Session} {settings : Settings} (hcommand : invocation.command = .check)
    (hsettings : invocation.settings root = .ok settings) :
    (invocation.run library root input session).2 =
      Result.ofAttempt (check (settings.directoryIn library) []) := by
  rw [Invocation.run, hsettings]
  simp only [hcommand, Invocation.settings_categories hsettings]

/-- A registry of the discovered documents is loaded if there are some and all of them load. -/
theorem exists_load_all_iff (hnames : directory.discover = .ok names) :
    (∃ registry, (Registry.load directory []).outcome = .ok registry) ↔
      names ≠ [] ∧ ∀ name ∈ names, Registry.Loads directory (.text name) := by
  have hselect : Registry.selectNames directory [] = .ok (names.map .text) := by
    rw [Registry.selectNames, hnames]
    rfl
  rw [Registry.exists_load_iff]
  simp [hselect]

/-- A registry of one category is loaded if this category loads. -/
theorem exists_load_single_iff (directory : Directory) (name : Json) :
    (∃ registry, (Registry.load directory [name]).outcome = .ok registry) ↔
      Registry.Loads directory name := by
  rw [Registry.exists_load_iff]
  simp [Registry.selectNames]

/-- Nothing is discovered, so nothing can be published. -/
theorem load_of_discover_nil (hnames : directory.discover = .ok []) :
    (Registry.load directory []).outcome =
      .error (.problem (Problem.configuration "No valid unit configurations found" none [])) := by
  have hselect : Registry.selectNames directory [] = .ok [] := by
    rw [Registry.selectNames, hnames]
    rfl
  simp only [Registry.load, Loaded.andThen_outcome, hselect, Except.bind, Registry.loadEach,
    Registry.ofCategories, List.isEmpty_nil, if_true]

/-- A directory of plainly named documents passes the check if it has a registry, or no
documents. -/
theorem exists_check_zero_iff_load (hplain : ∀ names, directory.discover = .ok names →
    ∀ name ∈ names, PlainlyNamed directory name) :
    (∃ r, check directory [] = .ok r ∧ r.exit = 0) ↔
      (∃ registry, (Registry.load directory []).outcome = .ok registry) ∨
        directory.discover = .ok [] := by
  rw [exists_check_zero_iff]
  cases hnames : directory.discover with
  | error failure =>
      have hselect : Registry.selectNames directory [] = .error failure := by
        rw [Registry.selectNames, hnames]
        rfl
      simp [Registry.exists_load_iff, hselect]
  | ok names =>
      have hall : (∀ name ∈ names, ∃ r, Report.ofFile directory name = .ok r ∧ r.valid = true) ↔
          ∀ name ∈ names, Registry.Loads directory (.text name) :=
        forall₂_congr fun name hname => Report.ofFile_valid_iff (hplain names hnames name hname)
      simp only [Except.ok.injEq, exists_eq_left', hall, exists_load_all_iff hnames]
      constructor
      · intro h
        by_cases hempty : names = []
        · exact .inr hempty
        · exact .inl ⟨hempty, h⟩
      · rintro (h | rfl)
        · exact h.2
        · simp

/-- What a printed report says about a plainly named document is whether it loads by itself. -/
theorem mark_iff_load {result : Result} (hnames : directory.discover = .ok names)
    (hresult : Result.ofAttempt (check directory []) = .ok result) {name : String}
    (hname : name ∈ names) (hplain : PlainlyNamed directory name) :
    result.mark? name = some (.bool true) ↔
      ∃ registry, (Registry.load directory [.text name]).outcome = .ok registry := by
  have hcheck : check directory [] = .ok result := by
    cases h : check directory [] with
    | ok r => simpa [h, Result.ofAttempt] using hresult
    | error failure =>
        cases failure with
        | problem p => exact absurd h (check_ne_problem hnames)
        | interruption cause => simp [h, Result.ofAttempt] at hresult
  obtain ⟨r, hr, hmark⟩ := check_mark hnames hcheck hname
  rw [exists_load_single_iff, ← Report.ofFile_valid_iff hplain, hmark, hr]
  simp

/-- The check of a directory agrees with the loading of a registry from it. If no category field has
spacing around it, the check exits with zero if the directory has a registry, or has no documents at
all; then it has no registry. And what the check says about a document without such spacing is
whether its category loads by itself. -/
theorem check_agrees_with_load {invocation : Invocation} (library : Library) {root : String}
    (input : String) (session : Session) {settings : Settings}
    (hcommand : invocation.command = .check) (hsettings : invocation.settings root = .ok settings) :
    ((∀ names, (settings.directoryIn library).discover = .ok names →
        ∀ name ∈ names, PlainlyNamed (settings.directoryIn library) name) →
      ((∃ r, (invocation.run library root input session).2 = .ok r ∧ r.exit = 0) ↔
        (∃ registry, (Registry.load (settings.directoryIn library) []).outcome = .ok registry) ∨
          (settings.directoryIn library).discover = .ok [])) ∧
    ((settings.directoryIn library).discover = .ok [] →
      (Registry.load (settings.directoryIn library) []).outcome =
        .error (.problem (Problem.configuration "No valid unit configurations found" none []))) ∧
    ∀ names r name, (settings.directoryIn library).discover = .ok names →
      (invocation.run library root input session).2 = .ok r → name ∈ names →
      PlainlyNamed (settings.directoryIn library) name →
        (r.mark? name = some (.bool true) ↔
          ∃ registry, (Registry.load (settings.directoryIn library) [.text name]).outcome =
            .ok registry) := by
  rw [run_check hcommand hsettings]
  refine ⟨fun hplain => ?_, load_of_discover_nil, fun names r name hnames hr hname hplain => ?_⟩
  · rw [ofAttempt_zero_iff]
    exact exists_check_zero_iff_load hplain
  · exact mark_iff_load hnames hr hname hplain

/-- The category fields of the bundled documents have no spacing around them. -/
theorem plainlyNamed_bundled {name : String} (hname : name ∈ Bundled.documents.map Prod.fst) :
    PlainlyNamed Bundled.directory name := by
  have hall : (Bundled.documents.all fun d =>
      Report.names d.2 d.1 && Text.trimSpacing d.1.toList == d.1.toList) = true := by
    decide +kernel
  obtain ⟨d, hd, rfl⟩ := List.mem_map.1 hname
  obtain ⟨i, hi, rfl⟩ := List.mem_iff_getElem.1 hd
  have hspells := Bundled.pages.2.get hi (Bundled.pages.2.length_eq ▸ hi)
  intro document s hread hs
  obtain rfl := Except.ok.inj (hread.symm.trans (Bundled.readDocument_eq hd hspells))
  obtain ⟨hnames, htrim⟩ := Bool.and_eq_true_iff.1 (List.all_eq_true.1 hall _ hd)
  obtain rfl : Bundled.documents[i].1 = s := by simpa [Report.names_iff.1 hnames] using hs
  exact beq_iff_eq.1 htrim

/-- The bundled documents pass the check, and each of them is marked as valid. -/
theorem check_of_bundled_agrees :
    Invocation.settings ⟨none, .check⟩ "/" = .ok .standard ∧
    (∃ r, (Invocation.run ⟨none, .check⟩ Library.empty "/" "" Session.fresh).2 =
      .ok r ∧ r.exit = 0) ∧
    ∀ r name, (Invocation.run ⟨none, .check⟩ Library.empty "/" "" Session.fresh).2 = .ok r →
      name ∈ Bundled.documents.map Prod.fst → r.mark? name = some (.bool true) := by
  have hsettings : Invocation.settings ⟨none, .check⟩ "/" = .ok .standard := rfl
  obtain ⟨hexit, -, hmark⟩ := @check_agrees_with_load ⟨none, .check⟩ Library.empty "/"
    "" Session.fresh .standard rfl hsettings
  refine ⟨hsettings, (hexit ?_).2 (.inl ⟨Bundled.registry, Bundled.load_eq⟩), ?_⟩
  · intro names hnames name hname
    obtain rfl := Except.ok.inj (hnames.symm.trans Bundled.discover_eq)
    exact plainlyNamed_bundled hname
  · intro r name hr hname
    refine (hmark _ r name Bundled.discover_eq hr hname (plainlyNamed_bundled hname)).2 ?_
    rw [← Bundled.map_name_categories] at hname
    obtain ⟨c, hc, rfl⟩ := List.mem_map.1 hname
    exact (exists_load_single_iff _ _).2 ⟨c, (Registry.sound_of_load Bundled.load_eq).1.loads c hc⟩

/-- A directory with the given files. -/
def unitsLibrary (files : List (String × StoredFile)) : Library :=
  ⟨[Folder.ofPath "/units" files], 0⟩

/-- A document of lengths whose category field has spacing around it. -/
def paddedDocument : Json :=
  Bundled.category " length " "metre" ""
    [Bundled.scaled "metre" "Metre" "m" ["m"] (Bundled.whole 1)]

/-- The files of a directory that has this document only. -/
def paddedFiles : List (String × StoredFile) :=
  [("length.json", .document paddedDocument)]

/-- The settings of an invocation that checks this directory. -/
theorem exists_unitsSettings :
    ∃ settings, Invocation.settings ⟨some "/units", .check⟩ "/" = .ok settings ∧
    ∀ library, settings.directoryIn library = ⟨library, "/units"⟩ := by
  have hpath : Path.absolute "/" "/units" = .ok "/units" := by decide
  have hdirectory : Settings.directoryOf "/" (some (.text "/units")) = .ok (some "/units") := by
    have hgiven : (Json.text "/units").isGiven = true := by decide
    simp only [Settings.directoryOf, hgiven, Json.shown_text, if_true, bind, Except.bind, hpath]
    rfl
  refine ⟨{ Settings.standard with directory := some "/units" }, ?_, fun _ => rfl⟩
  have hmember : List.lookup "config_dir" [("config_dir", Json.text "/units")] =
      some (.text "/units") := by
    simp
  simp only [Invocation.settings, Settings.ofMembers, hmember, hdirectory]
  rfl

theorem plain_units : ∀ part ∈ Path.parts "/units".toList, Path.Plain part := by
  have hplain : (Path.parts "/units".toList).all Path.isPlain = true := by decide
  exact fun part hpart => Path.plain_of_isPlain (List.all_eq_true.1 hplain part hpart)

theorem discover_units {files : List (String × StoredFile)} :
    Directory.discover ⟨unitsLibrary files, "/units"⟩ =
      .ok (Directory.stems (files.map (·.1))) := by
  have hsize : Path.size (Path.parts "/units".toList) ≤ Path.longestPath := by decide
  exact Directory.discover_eq plain_units hsize

theorem readDocument_padded :
    Directory.readDocument ⟨unitsLibrary paddedFiles, "/units"⟩ "length" = .ok paddedDocument := by
  have hname : Path.isPlain (Directory.documentPath "length") = true := by decide
  have hsize : Path.size (Path.parts "/units".toList ++ [Directory.documentPath "length"]) ≤
      Path.longestPath := by
    decide
  exact Directory.readDocument_eq plain_units (Path.plain_of_isPlain hname) hsize rfl

/-- The loading compares the name without the spacing around it. -/
theorem loads_padded : Registry.Loads ⟨unitsLibrary paddedFiles, "/units"⟩ (.text "length") := by
  have haudit : (((Category.ofDocument paddedDocument (.text "length")).toOption.bind
      fun category => category.audit.toOption)).isSome = true := by
    decide +kernel
  cases hcategory : Category.ofDocument paddedDocument (.text "length") with
  | error p => simp [hcategory, Except.toOption] at haudit
  | ok category =>
      cases hfindings : category.audit with
      | error signal => simp [hcategory, hfindings, Except.toOption] at haudit
      | ok findings =>
          exact ⟨category, Registry.loadCategory_eq_ok_iff.2
            ⟨paddedDocument, readDocument_padded, hcategory, findings, hfindings⟩⟩

/-- The check compares the name as it is written. -/
theorem not_valid_padded :
    ¬ ∃ r, Report.ofFile ⟨unitsLibrary paddedFiles, "/units"⟩ "length" = .ok r ∧
    r.valid = true := by
  rintro ⟨r, hr, hvalid⟩
  have hinvalid : (Report.ofDocument paddedDocument "length").map (·.valid) = .ok false := by
    decide +kernel
  rw [Report.ofFile_of_read readDocument_padded] at hr
  rw [hr] at hinvalid
  cases hvalid.symm.trans (Except.ok.inj hinvalid)

/-- A document of lengths. -/
def lengthDocument : Json :=
  Bundled.category "length" "metre" "" [Bundled.scaled "metre" "Metre" "m" ["m"] (Bundled.whole 1)]

/-- The files of a directory that has this document and one that is no text. -/
def neighbourFiles : List (String × StoredFile) :=
  [("length.json", .document lengthDocument), ("stray.json", .bytes [0xff])]

theorem readDocument_length :
    Directory.readDocument ⟨unitsLibrary neighbourFiles, "/units"⟩ "length" =
      .ok lengthDocument := by
  have hname : Path.isPlain (Directory.documentPath "length") = true := by decide
  have hsize : Path.size (Path.parts "/units".toList ++ [Directory.documentPath "length"]) ≤
      Path.longestPath := by
    decide
  exact Directory.readDocument_eq plain_units (Path.plain_of_isPlain hname) hsize rfl

/-- The document loads, since nothing is read of its neighbour. -/
theorem loads_length : Registry.Loads ⟨unitsLibrary neighbourFiles, "/units"⟩ (.text "length") := by
  have haudit : (((Category.ofDocument lengthDocument (.text "length")).toOption.bind
      fun category => category.audit.toOption)).isSome = true := by
    decide +kernel
  cases hcategory : Category.ofDocument lengthDocument (.text "length") with
  | error p => simp [hcategory, Except.toOption] at haudit
  | ok category =>
      cases hfindings : category.audit with
      | error signal => simp [hcategory, hfindings, Except.toOption] at haudit
      | ok findings =>
          exact ⟨category, Registry.loadCategory_eq_ok_iff.2
            ⟨lengthDocument, readDocument_length, hcategory, findings, hfindings⟩⟩

/-- The document that is no text ends the check of all of them. -/
theorem check_neighbour_ne_ok (result : Result) :
    check ⟨unitsLibrary neighbourFiles, "/units"⟩ [] ≠ .ok result := by
  intro h
  obtain ⟨names, reports, hnames, hreports, -⟩ := check_eq_ok_iff.1 h
  have hstems : Directory.stems (neighbourFiles.map (·.1)) = ["length", "stray"] := by
    have hmap : neighbourFiles.map (·.1) = ["length", "stray"].map (· ++ ".json") := by decide
    rw [hmap, Directory.stems_eq (by decide) (by decide)]
  rw [discover_units, hstems] at hnames
  obtain ⟨hmap, hfiles⟩ := reports_of_reportEach hreports
  have hstray : "stray" ∈ reports.map Prod.fst := by
    rw [hmap, ← Except.ok.inj hnames]
    simp
  obtain ⟨entry, hentry, hname⟩ := List.mem_map.1 hstray
  have hreport := hfiles entry hentry
  have hread : Directory.readDocument ⟨unitsLibrary neighbourFiles, "/units"⟩ "stray" =
      .error (.interruption .undecodable) :=
    (Directory.readDocument_interrupted_iff ..).2 (.undecodable rfl (by decide))
  rw [hname, Report.ofFile, hread] at hreport
  cases hreport

/-- A check and a loading can disagree. A directory without documents passes the check, and no
registry can be loaded from it. A document whose category field has spacing around it loads, by
itself and with the whole directory, and does not pass. A document that loads by itself is not
reported on beside one that is no text. -/
theorem check_disagrees_with_load :
    ((∃ r, (Invocation.run ⟨some "/units", .check⟩ (unitsLibrary []) "/" "" Session.fresh).2 =
      .ok r ∧
        r.exit = 0) ∧
      ¬ ∃ registry, (Registry.load ⟨unitsLibrary [], "/units"⟩ []).outcome = .ok registry) ∧
    ((¬ ∃ r, (Invocation.run ⟨some "/units", .check⟩ (unitsLibrary paddedFiles) "/" ""
      Session.fresh).2 =
          .ok r ∧ r.exit = 0) ∧
      (∃ registry, (Registry.load ⟨unitsLibrary paddedFiles, "/units"⟩ []).outcome = .ok registry) ∧
      ∃ registry, (Registry.load ⟨unitsLibrary paddedFiles, "/units"⟩ [.text "length"]).outcome =
        .ok registry) ∧
    ((¬ ∃ r, (Invocation.run ⟨some "/units", .check⟩ (unitsLibrary neighbourFiles) "/" ""
      Session.fresh).2 =
          .ok r) ∧
      ∃ registry, (Registry.load ⟨unitsLibrary neighbourFiles, "/units"⟩ [.text "length"]).outcome =
        .ok registry) := by
  obtain ⟨settings, hsettings, hdirectory⟩ := exists_unitsSettings
  have hempty : Directory.discover ⟨unitsLibrary [], "/units"⟩ = .ok [] := by
    simpa [Directory.stems] using @discover_units []
  have hnames : Directory.discover ⟨unitsLibrary paddedFiles, "/units"⟩ = .ok ["length"] := by
    have hstems : Directory.stems (paddedFiles.map (·.1)) = ["length"] := by decide +kernel
    rw [discover_units, hstems]
  rw [run_check rfl hsettings, run_check rfl hsettings, run_check rfl hsettings,
    hdirectory, hdirectory, hdirectory, ofAttempt_zero_iff, ofAttempt_zero_iff,
    exists_load_single_iff, exists_load_single_iff,
    exists_load_all_iff hnames, exists_load_all_iff hempty]
  refine ⟨⟨?_, ?_⟩, ⟨?_, ⟨by simp, by simpa using loads_padded⟩, loads_padded⟩, ?_, loads_length⟩
  · exact exists_check_zero_iff.2 ⟨[], hempty, by simp⟩
  · exact fun h => h.1 rfl
  · intro h
    obtain ⟨names, hdiscover, hall⟩ := exists_check_zero_iff.1 h
    obtain rfl := Except.ok.inj (hdiscover.symm.trans hnames)
    exact not_valid_padded (hall "length" (by simp))
  · have hneighbour : Directory.discover ⟨unitsLibrary neighbourFiles, "/units"⟩ =
        .ok (Directory.stems (neighbourFiles.map (·.1))) := discover_units
    rintro ⟨r, hr⟩
    cases hcheck : check ⟨unitsLibrary neighbourFiles, "/units"⟩ [] with
    | ok result => exact check_neighbour_ne_ok result hcheck
    | error failure =>
        cases failure with
        | problem p => exact check_ne_problem hneighbour hcheck
        | interruption cause =>
            rw [hcheck] at hr
            cases hr

end CommandLine

end UnitConversion
