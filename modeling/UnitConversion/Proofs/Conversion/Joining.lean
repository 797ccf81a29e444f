import UnitConversion.CommandLine.Commands
import UnitConversion.Proofs.Catalog.Bundled
import UnitConversion.Proofs.Conversion.Course
import UnitConversion.Proofs.Words
import Mathlib

/-!
# Texts that are put together

The outcomes of the lines of a text depend on nothing but these lines. So two texts with a line feed
between them have the outcomes of both, one after the other, as long as there are not too many
lines, and the counts of the outcomes add up. A command that converts a text succeeds when it has
loaded a registry and no line has failed. In a text, the characters U+BD800 to U+BDFFF stand for
lone surrogates, as `Text.surrogate?` says.

* `Text.areLines_iff`: the lines of a text are the pieces without line feeds that it consists of.
* `Conversion.convertLines_append`, `Conversion.summarize_append`: outcomes and counts of two texts
  in one.
* `CommandLine.exists_exit_zero_iff`: when a command that converts succeeds.
* `Conversion.convertLines_join`: all of this together.
-/

namespace UnitConversion

namespace Text

/-- Whether a text consists of some pieces with line feeds between them, and of nothing less than a
line each. -/
structure AreLines (text : String) (pieces : List String) : Prop where
  nonempty : pieces ≠ []
  feedless : ∀ piece ∈ pieces, '\n' ∉ piece.toList
  joined : "\n".intercalate pieces = text

/-- No piece holds a character at which the text is split. -/
theorem not_of_mem_splitWhere {p : Char → Bool} {cs piece : List Char}
    (h : piece ∈ splitWhere p cs) :
    ∀ c ∈ piece, p c = false := by
  induction cs generalizing piece with
  | nil =>
      obtain rfl := List.mem_singleton.1 h
      simp
  | cons d cs ih =>
      rw [splitWhere] at h
      split at h
      · rcases List.mem_cons.1 h with rfl | h
        · simp
        · exact ih h
      · next hd =>
          have hd : p d = false := by simpa using hd
          split at h
          · obtain rfl := List.mem_singleton.1 h
            simpa using hd
          · next first pieces hsplit =>
              rw [hsplit] at ih
              rcases List.mem_cons.1 h with rfl | h
              · exact List.forall_mem_cons.2 ⟨hd, ih List.mem_cons_self⟩
              · exact ih (List.mem_cons_of_mem _ h)

theorem lines_eq (text : String) : lines text = (text.toList.splitOn '\n').map String.ofList := by
  rw [lines, splitWhere_eq, List.splitOn_eq_splitOnP]

/-- The lines of a text are the pieces without line feeds that it consists of. -/
theorem areLines_iff {text : String} {pieces : List String} :
    AreLines text pieces ↔ pieces = lines text := by
  constructor
  · rintro ⟨hne, hfeedless, rfl⟩
    have hpieces : ∀ cs ∈ pieces.map String.toList, '\n' ∉ cs := by simpa using hfeedless
    rw [lines_eq, String.toList_intercalate]
    change pieces = (List.splitOn '\n' (['\n'].intercalate _)).map String.ofList
    rw [List.splitOn_intercalate '\n' hpieces (by simpa using hne), List.map_map]
    simp
  · rintro rfl
    refine ⟨by simp [lines_eq], fun piece hpiece => ?_, ?_⟩
    · obtain ⟨cs, hcs, rfl⟩ := List.mem_map.1 hpiece
      intro hfeed
      rw [String.toList_ofList] at hfeed
      exact absurd (not_of_mem_splitWhere hcs _ hfeed) (by simp)
    · rw [← String.toList_inj, String.toList_intercalate, lines_eq, List.map_map]
      simp [Function.comp_def, List.intercalate_splitOn]

/-- A line feed between two texts separates their lines. -/
theorem lines_append (a b : String) : lines (a ++ "\n" ++ b) = lines a ++ lines b := by
  have hfeed : (a ++ "\n" ++ b).toList = a.toList ++ '\n' :: b.toList := by simp
  rw [lines_eq, hfeed, List.splitOn_eq_splitOnP, List.splitOnP_append_cons _ _ (by simp),
    List.map_append, ← List.splitOn_eq_splitOnP, ← List.splitOn_eq_splitOnP, ← lines_eq, ← lines_eq]

end Text

namespace Conversion

variable {registry : Option Registry} {settings : Settings} {a b text : String}

/-- The outcomes of two texts with a line feed between them are those of the first and those of the
second. -/
theorem convertLines_append
    (hlimit : ((Text.lines a).length + (Text.lines b).length : Int) ≤ settings.maxLines) :
    convertLines registry settings (.text (a ++ "\n" ++ b)) =
      convertLines registry settings (.text a) ++ convertLines registry settings (.text b) := by
  have hboth : ((Text.lines (a ++ "\n" ++ b)).length : Int) ≤ settings.maxLines := by
    rw [Text.lines_append, List.length_append]
    push_cast
    exact hlimit
  rw [convertLines_eq_map hboth, Text.lines_append, List.map_append, convertLines_eq_map (by omega),
    convertLines_eq_map (by omega)]

/-! ### Counts -/

/-- The counts of two texts together. -/
def Summary.add (x y : Summary) : Summary where
  total := x.total + y.total
  converted := x.converted + y.converted
  failed := x.failed + y.failed
  empty := x.empty + y.empty

theorem summarize_append (xs ys : List Outcome) :
    summarize (xs ++ ys) = (summarize xs).add (summarize ys) := by
  simp [summarize, Summary.add]

/-- Every outcome is counted once. -/
theorem total_summarize (outcomes : List Outcome) :
    (summarize outcomes).total =
      (summarize outcomes).converted + (summarize outcomes).failed +
        (summarize outcomes).empty := by
  induction outcomes with
  | nil => rfl
  | cons outcome outcomes ih =>
      rw [← List.singleton_append, summarize_append]
      simp only [Summary.add, ih]
      cases hblank : outcome.isBlank <;> cases hsuccess : outcome.isSuccess <;>
        simp [summarize, hblank, hsuccess] <;> omega

end Conversion

namespace CommandLine

/-- The exit code of a conversion of lines says whether one of them has failed. -/
theorem exit_convertLines (registry : Registry) (settings : Settings) (text : String) :
    (convertLines registry settings text).exit = 0 ↔
      (Conversion.summarize
        (Conversion.convertLines (some registry) settings (.text text))).failed = 0 := by
  simp only [convertLines, Conversion.summarize, List.countP_eq_zero]
  have hfailed (o : Outcome) : (o.isSuccess || o.isBlank) = true ↔
      ¬ (!o.isBlank && !o.isSuccess) = true := by
    cases o.isSuccess <;> cases o.isBlank <;> simp
  simp only [← hfailed, ← List.all_eq_true]
  split
  · next hall => simp [hall]
  · next hall => simp [hall]

/-- A command that converts succeeds exactly when it has loaded a registry and none of the lines has
failed. -/
theorem exists_exit_zero_iff {invocation : Invocation} {lines : List String}
    (hcommand : invocation.command = .query (.convert lines)) (library : Library)
    (root input : String) (session : Session) :
    (∃ result, (invocation.run library root input session).2 = .ok result ∧ result.exit = 0) ↔
      ∃ settings registry, invocation.settings root = .ok settings ∧
        (session.start library settings).2 = .ok registry ∧
        (Conversion.summarize (Conversion.convertLines (some registry) settings
          (.text (textOf lines input)))).failed = 0 := by
  unfold Invocation.run
  cases hsettings : invocation.settings root with
  | error failure => simp
  | ok settings =>
      rw [hcommand]
      simp only [Query.start]
      rcases hstart : session.start library settings with ⟨session', failure | registry⟩
      · cases failure <;> simp [hstart, Result.ofAttempt, Result.ofProblem]
      · simp [hstart, Query.run, Result.ofAttempt, exit_convertLines]

end CommandLine

namespace Conversion

/-- What two texts with a line feed between them have in common with each of them. -/
structure Joins (registry : Option Registry) (settings : Settings) (a b : String) : Prop where
  lines : Text.AreLines (a ++ "\n" ++ b) (Text.lines a ++ Text.lines b)
  outcomes : convertLines registry settings (.text (a ++ "\n" ++ b)) =
    convertLines registry settings (.text a) ++ convertLines registry settings (.text b)
  /-- Every line has its outcome in its place: that of its request or, if it is blank, that of a
  blank line. -/
  each : List.Forall₂
    (fun line outcome => (outcome = .blank ↔ ∀ c ∈ line.toList, Text.isBlank c = true) ∧
      (outcome ≠ .blank → outcome = convertText registry settings (.text line)))
    (Text.lines a ++ Text.lines b) (convertLines registry settings (.text (a ++ "\n" ++ b)))
  summary : summarize (convertLines registry settings (.text (a ++ "\n" ++ b))) =
    (summarize (convertLines registry settings (.text a))).add
      (summarize (convertLines registry settings (.text b)))
  total : (summarize (convertLines registry settings (.text (a ++ "\n" ++ b)))).total =
    (summarize (convertLines registry settings (.text (a ++ "\n" ++ b)))).converted +
      (summarize (convertLines registry settings (.text (a ++ "\n" ++ b)))).failed +
        (summarize (convertLines registry settings (.text (a ++ "\n" ++ b)))).empty

/-- The outcomes of two texts with a line feed between them, if these do not have too many lines
together, and the exit codes of the commands that convert texts. -/
theorem convertLines_join (registry : Option Registry) {settings : Settings} {a b : String}
    (hlimit : ((Text.lines a).length + (Text.lines b).length : Int) ≤ settings.maxLines) :
    Joins registry settings a b ∧
    ∀ (invocation : CommandLine.Invocation) (lines : List String) (library : Library)
      (root input : String) (session : Session), invocation.command = .query (.convert lines) →
      ((∃ result, (invocation.run library root input session).2 = .ok result ∧ result.exit = 0) ↔
        ∃ settings registry, invocation.settings root = .ok settings ∧
          (session.start library settings).2 = .ok registry ∧
          (summarize (convertLines (some registry) settings
            (.text (CommandLine.textOf lines input)))).failed = 0) := by
  have hjoined : convertLines registry settings (.text (a ++ "\n" ++ b)) =
      convertLines registry settings (.text a) ++ convertLines registry settings (.text b) :=
    convertLines_append hlimit
  refine ⟨?_, fun invocation lines library root input session hcommand =>
    CommandLine.exists_exit_zero_iff hcommand library root input session⟩
  refine ⟨?_, hjoined, ?_, ?_, total_summarize _⟩
  · rw [Text.areLines_iff, Text.lines_append]
  · rw [convertLines_eq_map
      (by rw [Text.lines_append, List.length_append]; push_cast; exact hlimit), Text.lines_append,
      List.forall₂_map_right_iff, List.forall₂_same]
    intro line _
    have hblank : Text.isBlankText line = true ↔ ∀ c ∈ line.toList, Text.isBlank c = true :=
      List.all_eq_true
    rw [← hblank]
    split
    · next h => simp [h]
    · next h => simp [h, convertText_ne_blank]
  · rw [hjoined, summarize_append]

/-- A command that is asked for the conversion of a blank line. -/
def blankCommand : CommandLine.Invocation :=
  ⟨none, .query (.convert [" "])⟩

/-- A blank line at the end of the first text keeps its place; a command with nothing but a blank
line succeeds. -/
theorem blank_lines_join :
    ((Text.lines "5 m to ft\n ").length + (Text.lines "2 kg").length : Int) ≤
      Settings.standard.maxLines ∧
    Joins none .standard "5 m to ft\n " "2 kg" ∧ blankCommand.command = .query (.convert [" "]) ∧
    ∃ result, (blankCommand.run Library.empty "/" "" Session.fresh).2 = .ok result ∧
      result.exit = 0 := by
  have hlimit :
      ((Text.lines "5 m to ft\n ").length + (Text.lines "2 kg").length : Int) ≤
        Settings.standard.maxLines := by
    decide
  obtain ⟨hjoins, hcommand⟩ := convertLines_join none hlimit
  have hload : (Session.fresh.start Library.empty Settings.standard).2 = .ok Bundled.registry := by
    have hdirectory : Settings.standard.directoryIn Library.empty = Bundled.directory := rfl
    simp only [Session.start, hdirectory, Session.load]
    rw [show Settings.standard.categories.map Json.text = [] from rfl, Bundled.load_eq]
  refine ⟨hlimit, hjoins, rfl,
    (hcommand blankCommand [" "] Library.empty "/" "" Session.fresh rfl).2
    ⟨.standard, Bundled.registry, rfl, hload, ?_⟩⟩
  rfl

end Conversion

end UnitConversion
