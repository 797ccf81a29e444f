import UnitConversion.Catalog.Directory
import Mathlib.Tactic

/-!
# Directories whose documents can be reached

In a library with one folder, the path of the folder leads to it when all its parts are plain names,
and one more plain name leads to the file of that name.

* `Path.isPlain`: names that a path can go on with.
* `Library.locate_folder`, `Library.locate_file`: where paths with such parts lead.
* `Directory.readDocument_eq`: the document of a category is the object in its file.
* `Directory.discover_eq`: the categories that are found are those with a file, in order.
-/

namespace UnitConversion

namespace Path

/-- Whether characters are a name that a path can go on with. -/
def isPlain (cs : List Char) : Bool :=
  !cs.isEmpty && cs != ['.'] && cs != back && !cs.contains '/' && !cs.contains '\x00' &&
    !cs.any isUnencodable && decide (nameSize cs ≤ longestName)

/-- A name that a path can go on with. -/
structure Plain (cs : List Char) : Prop where
  nonempty : cs ≠ []
  ne_here : cs ≠ ['.']
  ne_back : cs ≠ back
  no_slash : ∀ c ∈ cs, c ≠ '/'
  no_zero : ∀ c ∈ cs, c ≠ '\x00'
  encodable : ∀ c ∈ cs, isUnencodable c = false
  size_le : nameSize cs ≤ longestName

theorem plain_of_isPlain {cs : List Char} (h : isPlain cs = true) : Plain cs := by
  simp only [isPlain, Bool.and_eq_true, Bool.not_eq_true', List.isEmpty_eq_false_iff, bne_iff_ne,
    List.contains_eq_mem, decide_eq_false_iff_not, decide_eq_true_eq, List.any_eq_false,
    Bool.not_eq_true] at h
  obtain ⟨⟨⟨⟨⟨⟨hnonempty, hhere⟩, hback⟩, hslash⟩, hzero⟩, hencodable⟩, hsize⟩ := h
  exact ⟨hnonempty, hhere, hback, fun c hc heq => hslash (heq ▸ hc),
    fun c hc heq => hzero (heq ▸ hc), hencodable, hsize⟩

theorem splitWhere_of_none {p : Char → Bool} {cs : List Char} (h : ∀ c ∈ cs, p c = false) :
    Text.splitWhere p cs = [cs] := by
  induction cs with
  | nil => rfl
  | cons c cs ih =>
      have hc := h c List.mem_cons_self
      rw [Text.splitWhere, ih fun d hd => h d (List.mem_cons_of_mem _ hd), hc]
      rfl

/-- A plain name is a path with one part. -/
theorem Plain.parts_eq {cs : List Char} (h : Plain cs) : parts cs = [cs] := by
  rw [parts, splitWhere_of_none fun c hc => by simpa using h.no_slash c hc]
  have hempty : cs.isEmpty = false := List.isEmpty_eq_false_iff.2 h.nonempty
  simp [hempty, h.ne_here]

theorem spellingObstacle?_of_plain {names : List (List Char)} (h : ∀ name ∈ names, Plain name) :
    spellingObstacle? names.flatten = none := by
  have hencodable : names.flatten.any isUnencodable = false := by
    rw [List.any_eq_false]
    intro c hc
    obtain ⟨name, hname, hc⟩ := List.mem_flatten.1 hc
    simp [(h name hname).encodable c hc]
  have hzero : names.flatten.contains '\x00' = false := by
    rw [List.contains_eq_mem, decide_eq_false_iff_not]
    intro hmem
    obtain ⟨name, hname, hc⟩ := List.mem_flatten.1 hmem
    exact (h name hname).no_zero _ hc rfl
  rw [spellingObstacle?, hencodable, hzero]
  rfl

end Path

open UnitConversion.Path

namespace Library

variable {folder : Folder} {room : Nat}

theorem filesIn_folder : filesIn ⟨[folder], room⟩ folder.parts = folder.files := by
  simp [filesIn]

theorem filesIn_of_ne {here : List (List Char)} (hne : here ≠ folder.parts) :
    filesIn ⟨[folder], room⟩ here = [] := by
  simp [filesIn, beq_eq_false_iff_ne.2 (Ne.symm hne)]

/-- A single folder has no folders in it, so its names are those of its files. -/
theorem namesIn_folder : namesIn ⟨[folder], room⟩ folder.parts = folder.files.map (·.1) := by
  simp [namesIn, foldersIn, filesIn_folder]

/-- The parts of a folder's path lead through the folders on the way to it. -/
theorem follow_append {here rest : List (List Char)} (hparts : here ++ rest = folder.parts)
    (hplain : ∀ part ∈ rest, Plain part) (tail : List (List Char)) :
    follow ⟨[folder], room⟩ here (rest ++ tail) = follow ⟨[folder], room⟩ folder.parts tail := by
  induction rest generalizing here with
  | nil => rw [← hparts, List.append_nil, List.nil_append]
  | cons part rest ih =>
      have hpart := hplain part List.mem_cons_self
      -- A folder on the way holds no files, since it is another one.
      have hne : here ≠ folder.parts := by
        intro heq
        rw [← heq] at hparts
        simp at hparts
      have hnext : (here ++ [part]) ++ rest = folder.parts := by
        rw [List.append_assoc, List.singleton_append, hparts]
      have hfolder : hasFolder ⟨[folder], room⟩ (here ++ [part]) = true := by
        simp [hasFolder, ← hnext]
      rw [List.cons_append, follow, if_neg hpart.ne_back, if_neg (Nat.not_lt.2 hpart.size_le),
        filesIn_of_ne hne]
      simp only [List.lookup_nil, hfolder, if_true]
      exact ih hnext fun p hp => hplain p (List.mem_cons_of_mem _ hp)

theorem locate_folder (hplain : ∀ part ∈ folder.parts, Plain part)
    (hsize : Path.size folder.parts ≤ longestPath) :
    locate ⟨[folder], room⟩ folder.parts = .ok (.folder (folder.files.map (·.1))) := by
  have hfollow := @follow_append _ room _ _ (List.nil_append folder.parts) hplain []
  rw [List.append_nil] at hfollow
  rw [locate, spellingObstacle?_of_plain hplain]
  simp only
  rw [if_neg (Nat.not_lt.2 hsize), hfollow, follow, namesIn_folder]

theorem locate_file (hplain : ∀ part ∈ folder.parts, Plain part) {name : List Char}
    (hname : Plain name) (hsize : Path.size (folder.parts ++ [name]) ≤ longestPath)
    {file : StoredFile} (hfile : folder.files.lookup (String.ofList name) = some file) :
    locate ⟨[folder], room⟩ (folder.parts ++ [name]) = .ok (.file file) := by
  have hall : ∀ part ∈ folder.parts ++ [name], Plain part := by
    intro part hpart
    rcases List.mem_append.1 hpart with hpart | hpart
    · exact hplain part hpart
    · rwa [List.mem_singleton.1 hpart]
  rw [locate, spellingObstacle?_of_plain hall]
  simp only
  rw [if_neg (Nat.not_lt.2 hsize), follow_append (List.nil_append folder.parts) hplain, follow,
    if_neg hname.ne_back, if_neg (Nat.not_lt.2 hname.size_le), filesIn_folder, hfile]
  rfl

end Library

namespace Directory

theorem stem?_append {name : String} (hname : name ≠ "") : stem? (name ++ ".json") = some name := by
  have hchars : (name ++ ".json").toList = name.toList ++ extension := by
    rw [String.toList_append]; rfl
  have hsuffix : extension.isSuffixOf (name.toList ++ extension) = true :=
    List.isSuffixOf_iff_suffix.2 (List.suffix_append _ _)
  have hlonger : name.toList ++ extension ≠ extension := by
    intro heq
    exact hname (by simpa using heq)
  rw [stem?, hchars, hsuffix]
  simp [hlonger]

/-- The stems of names that come from categories in order are those categories. -/
theorem stems_eq {names : List String} (hnames : ∀ name ∈ names, name ≠ "")
    (hsorted : names.Pairwise (· ≤ ·)) : stems (names.map (· ++ ".json")) = names := by
  have hstems : (names.map (· ++ ".json")).filterMap stem? = names := by
    rw [List.filterMap_map]
    clear hsorted
    induction names with
    | nil => rfl
    | cons name names ih =>
        rw [List.filterMap_cons, Function.comp_apply, stem?_append (hnames name List.mem_cons_self)]
        simp only [ih fun n hn => hnames n (List.mem_cons_of_mem _ hn)]
  rw [stems, hstems]
  exact List.mergeSort_of_pairwise (hsorted.imp fun h => by simpa using h)

variable {path : String} {files : List (String × StoredFile)} {room : Nat}

theorem discover_eq (hpath : ∀ part ∈ parts path.toList, Plain part)
    (hsize : Path.size (parts path.toList) ≤ longestPath) :
    discover ⟨⟨[Folder.ofPath path files], room⟩, path⟩ = .ok (stems (files.map (·.1))) := by
  have hlocate := @Library.locate_folder (Folder.ofPath path files) room hpath hsize
  rw [discover]
  simp only [Folder.ofPath] at hlocate ⊢
  rw [hlocate]

/-- The document of a category is the object in the file that is named after it. -/
theorem readDocument_eq (hpath : ∀ part ∈ parts path.toList, Plain part) {category : String}
    (hcategory : Plain (documentPath category))
    (hsize : Path.size (parts path.toList ++ [documentPath category]) ≤ longestPath)
    {members : List (String × Json)}
    (hfile : files.lookup (category ++ ".json") = some (.document (.object members))) :
    readDocument ⟨⟨[Folder.ofPath path files], room⟩, path⟩ category = .ok (.object members) := by
  have hname : String.ofList (documentPath category) = category ++ ".json" := by
    rw [documentPath, extension, String.ofList_append, String.ofList_toList, String.ofList_toList]
  have hparts : partsFrom path.toList (documentPath category) =
      parts path.toList ++ [documentPath category] := by
    have hrelative : isAbsolute (documentPath category) = false := by
      obtain ⟨c, cs, hcs⟩ := List.exists_cons_of_ne_nil hcategory.nonempty
      have hc : c ≠ '/' := hcategory.no_slash c (hcs ▸ List.mem_cons_self)
      simp [isAbsolute, hcs, hc]
    rw [partsFrom, hrelative, hcategory.parts_eq]
    rfl
  have hlocate := @Library.locate_file (Folder.ofPath path files) room hpath _ hcategory hsize _
    (hname ▸ hfile)
  have hread : file ⟨⟨[Folder.ofPath path files], room⟩, path⟩ category =
      .ok (.document (.object members)) := by
    rw [file]
    simp only [hparts]
    simp only [Folder.ofPath] at hlocate ⊢
    rw [hlocate]
  simp [readDocument, hread, readFile, Except.mapError, bind, Except.bind, pure, Except.pure]

end Directory

end UnitConversion
