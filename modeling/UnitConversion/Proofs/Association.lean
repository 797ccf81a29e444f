import Mathlib.Tactic
import UnitConversion.Association

/-!
# Entries under their keys

What is found under a key after entries were put into a list, were changed or were left out.

* `Association.lookup_put`, `Association.lookup_foldl_put`: one entry or several ones are put into a
  list.
* `Association.lookup_mapValues`: the value of every entry is changed as its key says.
* `Association.lookup_filter_key`: entries are left out by their keys.
-/

namespace UnitConversion

namespace Association

variable {α : Type}

theorem lookup_cons_eq (k' : String) (v : α) (entries : List (String × α)) (k : String) :
    List.lookup k ((k', v) :: entries) = if k = k' then some v else entries.lookup k := by
  rw [List.lookup_cons]
  by_cases h : k = k'
  · simp [h]
  · rw [beq_eq_false_iff_ne.2 h, if_neg h]

theorem lookup_put (entries : List (String × α)) (key : String) (value : α) (k : String) :
    (put entries key value).lookup k = if k = key then some value else entries.lookup k := by
  induction entries with
  | nil => rw [put, lookup_cons_eq]
  | cons entry entries ih =>
      obtain ⟨k', v⟩ := entry
      rw [put]
      by_cases hk : k' = key
      · subst hk
        rw [if_pos rfl, lookup_cons_eq, lookup_cons_eq]
        by_cases h : k = k' <;> simp [h]
      · rw [if_neg hk, lookup_cons_eq, lookup_cons_eq, ih]
        by_cases h : k = k'
        · subst h
          simp [hk]
        · simp [h]

/-- What is put under a key again and again, always the same, is found there. -/
theorem lookup_foldl_put {entries before : List (String × α)} {key : String} {value : α}
    (hsame : ∀ entry ∈ entries, entry.1 = key → entry.2 = value)
    (hsome : before.lookup key = some value ∨ key ∈ entries.map Prod.fst) :
    (entries.foldl (fun all entry => put all entry.1 entry.2) before).lookup key = some value := by
  induction entries generalizing before with
  | nil => simpa using hsome
  | cons entry entries ih =>
      rw [List.foldl_cons]
      refine ih (fun e he => hsame e (List.mem_cons_of_mem _ he)) ?_
      -- If the entry is under the key, the value is there from now on; else the key is still to
      -- come.
      rw [lookup_put]
      by_cases h : key = entry.1
      · exact .inl (by rw [if_pos h, hsame entry List.mem_cons_self h.symm])
      · rw [if_neg h]
        simpa [h] using hsome

theorem lookup_mapValues {β : Type} (f : String → α → β) (entries : List (String × α))
    (k : String) :
    (entries.map fun entry => (entry.1, f entry.1 entry.2)).lookup k =
      (entries.lookup k).map (f k) := by
  induction entries with
  | nil => rfl
  | cons entry entries ih =>
      obtain ⟨k', v⟩ := entry
      rw [List.map_cons, lookup_cons_eq, lookup_cons_eq, ih]
      by_cases h : k = k' <;> simp [h]

theorem lookup_filter_key (keep : String → Bool) (entries : List (String × α)) (k : String) :
    (entries.filter fun entry => keep entry.1).lookup k = if keep k then entries.lookup k
    else none := by
  induction entries with
  | nil => simp
  | cons entry entries ih =>
      obtain ⟨k', v⟩ := entry
      rw [List.filter_cons, lookup_cons_eq]
      by_cases h : k = k'
      · subst h
        cases hkeep : keep k <;> simp [ih, hkeep]
      · cases hkeep : keep k'
        · simp [ih, h]
        · simp [ih, h, lookup_cons_eq]

end Association

end UnitConversion
