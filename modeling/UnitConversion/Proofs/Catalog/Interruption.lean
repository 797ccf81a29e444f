import UnitConversion.Catalog.Loading
import UnitConversion.Proofs.Catalog.Category

/-!
# Interrupted loadings

A loading that fails either describes a problem or is interrupted. This module says which contents
of the files interrupt it, level by level: a document that is read, a category that is loaded and
audited, and a loading of all categories.

* `Directory.readDocument_interrupted_iff`: files that cannot be reached, bytes that are no text,
  and texts that the reader gives up on.
* `Registry.loadCategory_interrupted_iff`: such a file, a name that cannot be written, or an audit
  that is stopped by a signal.
* `Registry.load_interrupted_iff`: the first category that cannot be loaded decides.
-/

namespace UnitConversion

/-- What the reader gives up on without a place to point at. -/
def Json.Stop.cause? : Json.Stop → Option Interruption
  | .fault .. => none
  | .longInteger => some .longInteger
  | .wildDecimal => some (.signal .invalidOperation)
  | .nested _ => some .nested

theorem Loaded.andThen_outcome {α β : Type} (step : Loaded α) (next : α → Loaded β) :
    (step.andThen next).outcome = step.outcome.bind fun a => (next a).outcome := by
  unfold Loaded.andThen
  cases step.outcome <;> rfl

namespace Directory

/-- What interrupts the reading of the document that the name of a category leads to. -/
inductive ReadInterrupted (directory : Directory) (category : String) : Interruption → Prop
  | obstacle {obstacle : Path.Obstacle} (hfile : directory.file category = .error obstacle)
      (hthere : obstacle ≠ .missing) : ReadInterrupted directory category (.obstacle obstacle)
  | undecodable {bytes : List UInt8} (hfile : directory.file category = .ok (.bytes bytes))
      (hbytes : Text.Utf8.decode? bytes = none) : ReadInterrupted directory category .undecodable
  | reader {bytes : List UInt8} {cs : List Char} {stop : Json.Stop} {cause : Interruption}
      (hfile : directory.file category = .ok (.bytes bytes))
      (htext : Text.Utf8.decode? bytes = some cs)
      (hstop : Json.read .exact directory.library.room (Text.Utf8.unifyLineEnds cs) = .error stop)
      (hcause : stop.cause? = some cause) : ReadInterrupted directory category cause

theorem failureOf_eq_interruption_iff (name : String) (cs : List Char) (stop : Json.Stop)
    (cause : Interruption) :
    failureOf name cs stop = .interruption cause ↔ stop.cause? = some cause := by
  cases stop <;> simp [failureOf, Json.Stop.cause?]

theorem failureOfObstacle_eq_interruption_iff (name : String) (obstacle : Path.Obstacle)
    (cause : Interruption) :
    failureOfObstacle name obstacle = .interruption cause ↔
      obstacle ≠ .missing ∧ cause = .obstacle obstacle := by
  cases obstacle <;> simp [failureOfObstacle, eq_comm]

/-- Of the files of a directory, only those given as bytes interrupt the reading. -/
theorem readFile_interrupted_iff (room : Nat) (name : String) (file : StoredFile)
    (cause : Interruption) :
    readFile room name file = .error (.interruption cause) ↔
      ∃ bytes, file = .bytes bytes ∧
        ((Text.Utf8.decode? bytes = none ∧ cause = .undecodable) ∨
          ∃ cs stop, Text.Utf8.decode? bytes = some cs ∧
            Json.read .exact room (Text.Utf8.unifyLineEnds cs) = .error stop ∧
              stop.cause? = some cause) := by
  cases file with
  | document document => simp [readFile]
  | bytes bytes =>
      cases hbytes : Text.Utf8.decode? bytes with
      | none => simp [readFile, hbytes, eq_comm]
      | some cs =>
          cases hread : Json.read .exact room (Text.Utf8.unifyLineEnds cs) with
          | ok document => simp [readFile, hbytes, hread, Except.mapError]
          | error stop =>
              simp [readFile, hbytes, hread, Except.mapError, failureOf_eq_interruption_iff]

theorem readDocument_interrupted_iff (directory : Directory) (category : String)
    (cause : Interruption) :
    directory.readDocument category = .error (.interruption cause) ↔
      directory.ReadInterrupted category cause := by
  unfold readDocument
  constructor
  · intro h
    cases hfile : directory.file category with
    | error obstacle =>
        have hfailure : failureOfObstacle (documentName category) obstacle =
            .interruption cause := by
          simpa [hfile, Except.mapError, bind, Except.bind] using h
        obtain ⟨hthere, rfl⟩ := (failureOfObstacle_eq_interruption_iff ..).1 hfailure
        exact .obstacle hfile hthere
    | ok file =>
        have hread : readFile directory.library.room (documentName category) file =
            .error (.interruption cause) := by
          cases hread : readFile directory.library.room (documentName category) file with
          | error failure => simpa [hfile, hread, Except.mapError, bind, Except.bind] using h
          | ok document =>
              simp only [hfile, hread, Except.mapError, bind, Except.bind] at h
              cases document <;> simp [throw, throwThe, MonadExceptOf.throw, pure, Except.pure] at h
        obtain ⟨bytes, rfl, ⟨hbytes, rfl⟩ | ⟨cs, stop, htext, hstop, hcause⟩⟩ :=
          (readFile_interrupted_iff ..).1 hread
        · exact .undecodable hfile hbytes
        · exact .reader hfile htext hstop hcause
  · intro h
    cases h with
    | obstacle hfile hthere =>
        have hfailure := (failureOfObstacle_eq_interruption_iff (documentName category) _ _).2
          ⟨hthere, rfl⟩
        simp [hfile, hfailure, Except.mapError, bind, Except.bind]
    | undecodable hfile hbytes =>
        have hread := (readFile_interrupted_iff directory.library.room
          (documentName category) _ _).2 ⟨_, rfl, .inl ⟨hbytes, rfl⟩⟩
        simp [hfile, hread, Except.mapError, bind, Except.bind]
    | reader hfile htext hstop hcause =>
        have hread := (readFile_interrupted_iff directory.library.room
          (documentName category) _ _).2 ⟨_, rfl, .inr ⟨_, _, htext, hstop, hcause⟩⟩
        simp [hfile, hread, Except.mapError, bind, Except.bind]

end Directory

namespace Registry

/-- The document that the text of a name leads to. -/
def readNamed (directory : Directory) (name : Json) : Attempt Json := do
  let shown ← name.shown
  directory.readDocument shown

/-- What interrupts the loading of one category: a name that cannot be written, a document that
cannot be read or that has such a name itself, and an audit that is stopped. -/
inductive CategoryInterrupted (directory : Directory) (name : Json) : Interruption → Prop
  | name (hname : name.hasLongInteger = true) : CategoryInterrupted directory name .longInteger
  | document {shown : String} {cause : Interruption} (hname : name.shown = .ok shown)
      (hread : directory.ReadInterrupted shown cause) : CategoryInterrupted directory name cause
  | called {document : Json} (hread : readNamed directory name = .ok document)
      (hcalled : Category.IsCalledLong document) : CategoryInterrupted directory name .longInteger
  | audit {document : Json} {category : Category} {signal : Signal}
      (hread : readNamed directory name = .ok document)
      (hcategory : Category.ofDocument document name = .ok category)
      (haudit : category.audit = .error signal) :
      CategoryInterrupted directory name (.signal signal)

theorem readNamed_interrupted_iff (directory : Directory) (name : Json) (cause : Interruption) :
    readNamed directory name = .error (.interruption cause) ↔
      (name.hasLongInteger = true ∧ cause = .longInteger) ∨
        ∃ shown, name.shown = .ok shown ∧ directory.ReadInterrupted shown cause := by
  unfold readNamed
  cases hname : name.shown with
  | error failure =>
      obtain ⟨hlong, rfl⟩ := Json.shown_eq_error_iff.1 hname
      simp [hlong, bind, Except.bind, eq_comm]
  | ok shown =>
      obtain ⟨hshort, -⟩ := Json.shown_eq_ok_iff.1 hname
      simp [hshort, bind, Except.bind, Directory.readDocument_interrupted_iff]

/-- A loading begins with the document that the name leads to. -/
theorem loadCategory_of_readNamed_error {directory : Directory} {name : Json} {failure : Failure}
    (h : readNamed directory name = .error failure) :
    loadCategory directory name = ⟨[], .error failure⟩ := by
  unfold readNamed at h
  unfold loadCategory
  cases hname : name.shown with
  | error other =>
      rw [hname] at h
      rw [← Except.error.inj h]
      rfl
  | ok shown =>
      rw [hname] at h
      have hread : directory.readDocument shown = .error failure := h
      simp only [hread, bind, Except.bind]

theorem loadCategory_outcome_of_readNamed {directory : Directory} {name document : Json}
    (h : readNamed directory name = .ok document) :
    (loadCategory directory name).outcome = (Category.ofDocument document name).bind fun category =>
      match category.audit with
      | .error signal => .error (.interruption (.signal signal))
      | .ok _ => .ok category := by
  unfold readNamed at h
  unfold loadCategory
  obtain ⟨shown, hname, hread⟩ := Formula.bind_eq_ok h
  simp only [hname, hread, bind, Except.bind, pure, Except.pure]
  cases Category.ofDocument document name with
  | error failure => cases failure <;> rfl
  | ok category =>
      dsimp only
      cases category.audit <;> rfl

theorem loadCategory_interrupted_iff (directory : Directory) (name : Json) (cause : Interruption) :
    (loadCategory directory name).outcome = .error (.interruption cause) ↔
      CategoryInterrupted directory name cause := by
  cases hread : readNamed directory name with
  | error failure =>
      rw [loadCategory_of_readNamed_error hread]
      have hfailure : .error failure = (.error (.interruption cause) : Attempt Json) ↔
          CategoryInterrupted directory name cause := by
        rw [← hread, readNamed_interrupted_iff]
        constructor
        · rintro (⟨hname, rfl⟩ | ⟨shown, hname, hdocument⟩)
          · exact .name hname
          · exact .document hname hdocument
        · intro h
          cases h with
          | name hname => exact .inl ⟨hname, rfl⟩
          | document hname hdocument => exact .inr ⟨_, hname, hdocument⟩
          | called hother _ => simp [hother] at hread
          | audit hother _ _ => simp [hother] at hread
      simpa using hfailure
  | ok document =>
      obtain ⟨shown, hname, hdocument⟩ := Formula.bind_eq_ok hread
      obtain ⟨hshort, -⟩ := Json.shown_eq_ok_iff.1 hname
      rw [loadCategory_outcome_of_readNamed hread]
      constructor
      · intro h
        cases hcategory : Category.ofDocument document name with
        | error failure =>
            rw [hcategory] at h
            rw [Except.error.inj h] at hcategory
            obtain ⟨rfl, hcalled | ⟨-, hlong⟩⟩ := Category.ofDocument_interrupted_iff.1 hcategory
            · exact .called hread hcalled
            · simp [hshort] at hlong
        | ok category =>
            cases haudit : category.audit with
            | error signal =>
                simp only [hcategory, haudit, Except.bind] at h
                injection h with h
                injection h with h
                exact h ▸ .audit hread hcategory haudit
            | ok findings => simp [hcategory, haudit, Except.bind] at h
      · intro h
        cases h with
        | name hname => simp [hshort] at hname
        | document hother hinterrupted =>
            rw [hname] at hother
            have hstopped := (Directory.readDocument_interrupted_iff ..).2 hinterrupted
            rw [← Except.ok.inj hother, hdocument] at hstopped
            cases hstopped
        | called hother hcalled =>
            obtain rfl := Except.ok.inj (hread.symm.trans hother)
            rw [Category.ofDocument_interrupted_iff.2 ⟨rfl, .inl hcalled⟩]
            rfl
        | audit hother hcategory haudit =>
            obtain rfl := Except.ok.inj (hread.symm.trans hother)
            simp [hcategory, haudit, Except.bind]

/-- Whether a category of the given name can be loaded. -/
def Loads (directory : Directory) (name : Json) : Prop :=
  ∃ category, (loadCategory directory name).outcome = .ok category

/-- Categories are loaded in order, so a loading is interrupted by the first one that does not
load. -/
theorem loadEach_interrupted_iff (directory : Directory) (before : List Category)
    (names : List Json) (cause : Interruption) :
    (loadEach directory before names).outcome = .error (.interruption cause) ↔
      ∃ loaded name rest, names = loaded ++ name :: rest ∧ (∀ n ∈ loaded, Loads directory n) ∧
        CategoryInterrupted directory name cause := by
  induction names generalizing before with
  | nil => simp [loadEach]
  | cons name names ih =>
      rw [loadEach, Loaded.andThen_outcome]
      cases hname : (loadCategory directory name).outcome with
      | error failure =>
          constructor
          · intro h
            rw [Except.error.inj h] at hname
            exact ⟨[], name, names, rfl, by simp, (loadCategory_interrupted_iff ..).1 hname⟩
          · rintro ⟨loaded, other, rest, hsplit, hloaded, hother⟩
            cases loaded with
            | nil =>
                obtain ⟨rfl, -⟩ := List.cons.inj hsplit
                rw [(loadCategory_interrupted_iff ..).2 hother] at hname
                rw [← hname]
                rfl
            | cons first loaded =>
                obtain ⟨rfl, -⟩ := List.cons.inj hsplit
                obtain ⟨category, hcategory⟩ := hloaded name (by simp)
                simp [hcategory] at hname
      | ok category =>
          change (loadEach directory (putCategory before category) names).outcome = _ ↔ _
          rw [ih]
          constructor
          · rintro ⟨loaded, other, rest, rfl, hloaded, hother⟩
            refine ⟨name :: loaded, other, rest, rfl, ?_, hother⟩
            intro n hn
            rcases List.mem_cons.1 hn with rfl | hn
            · exact ⟨category, hname⟩
            · exact hloaded n hn
          · rintro ⟨loaded, other, rest, hsplit, hloaded, hother⟩
            cases loaded with
            | nil =>
                obtain ⟨rfl, -⟩ := List.cons.inj hsplit
                rw [(loadCategory_interrupted_iff ..).2 hother] at hname
                cases hname
            | cons first loaded =>
                rw [List.cons_append] at hsplit
                obtain ⟨rfl, htail⟩ := List.cons.inj hsplit
                exact ⟨loaded, other, rest, htail, fun n hn => hloaded n (by simp [hn]), hother⟩

/-- What interrupts the loading of a registry: a path that is too long to be looked up, or the first
of the selected categories that does not load. -/
inductive LoadInterrupted (directory : Directory) (names : List Json) : Interruption → Prop
  | path (hnames : names = [])
      (hpath : directory.library.locate (Path.parts directory.path.toList) = .error .tooLong) :
      LoadInterrupted directory names (.obstacle .tooLong)
  | category {loaded rest : List Json} {name : Json} {cause : Interruption}
      (hselected : selectNames directory names = .ok (loaded ++ name :: rest))
      (hloaded : ∀ n ∈ loaded, Loads directory n)
      (hname : CategoryInterrupted directory name cause) : LoadInterrupted directory names cause

theorem selectNames_interrupted_iff (directory : Directory) (names : List Json)
    (cause : Interruption) :
    selectNames directory names = .error (.interruption cause) ↔
      names = [] ∧ directory.library.locate (Path.parts directory.path.toList) = .error .tooLong ∧
        cause = .obstacle .tooLong := by
  cases names with
  | cons name names => simp [selectNames]
  | nil =>
      simp only [selectNames, List.isEmpty_nil, if_true, Directory.discover, true_and]
      cases hplace : directory.library.locate (Path.parts directory.path.toList) with
      | ok place => cases place <;> simp [Except.map]
      | error obstacle => cases obstacle <;> simp [Except.map, eq_comm]

theorem ofCategories_not_interrupted (categories : List Category) (cause : Interruption) :
    (ofCategories categories).outcome ≠ .error (.interruption cause) := by
  unfold ofCategories
  split <;> simp

/-- A loading is interrupted exactly by what interrupts it in the files. -/
theorem load_interrupted_iff (directory : Directory) (names : List Json) (cause : Interruption) :
    (load directory names).outcome = .error (.interruption cause) ↔
      LoadInterrupted directory names cause := by
  rw [load, Loaded.andThen_outcome]
  cases hselected : selectNames directory names with
  | error failure =>
      constructor
      · intro h
        rw [Except.error.inj h] at hselected
        obtain ⟨hnames, hpath, rfl⟩ := (selectNames_interrupted_iff ..).1 hselected
        exact .path hnames hpath
      · intro h
        cases h with
        | path hnames hpath =>
            rw [(selectNames_interrupted_iff ..).2 ⟨hnames, hpath, rfl⟩] at hselected
            rw [← hselected]
            rfl
        | category hall => simp [hall] at hselected
  | ok selected =>
      change ((loadEach directory [] selected).andThen ofCategories).outcome = _ ↔ _
      have hstep : ((loadEach directory [] selected).andThen ofCategories).outcome =
          .error (.interruption cause) ↔
            (loadEach directory [] selected).outcome = .error (.interruption cause) := by
        rw [Loaded.andThen_outcome]
        cases (loadEach directory [] selected).outcome with
        | error failure => simp [Except.bind]
        | ok categories => simp [Except.bind, ofCategories_not_interrupted]
      rw [hstep, loadEach_interrupted_iff]
      constructor
      · rintro ⟨loaded, name, rest, rfl, hloaded, hname⟩
        exact .category hselected hloaded hname
      · intro h
        cases h with
        | path hnames hpath =>
            rw [(selectNames_interrupted_iff ..).2 ⟨hnames, hpath, rfl⟩] at hselected
            cases hselected
        | category hall hloaded hname =>
            rw [hselected] at hall
            exact ⟨_, _, _, Except.ok.inj hall, hloaded, hname⟩

end Registry

end UnitConversion
