import Mathlib.Data.List.Nodup
import ImageRelease.FileTree
import ImageRelease.Proofs.CodePoints

/-!
What a tree of files holds.

A tree is a table in which names stand once, and every change leaves it one. A directory holds the
names that stand in the table right behind its own, so nothing that lies deeper, and it holds each
of them once.
-/

namespace ImageRelease.FileTree

variable {t : FileTree} {p : Path} {name : String}

/-- Whether there is a regular file to be read at a path. -/
def isFile (t : FileTree) (p : Path) : Bool :=
  match t.read? p with
  | .ok (some _) => true
  | _ => false

lemma isFile_iff : t.isFile p = true ↔ ∃ bytes, t.read? p = .ok (some bytes) := by
  unfold isFile
  split
  · case h_1 bytes read => simp [read]
  · case h_2 other => simpa using other

lemma isFile_of_long (long : t.isLong p = true) : t.isFile p = false := by
  simp [isFile, read?, long]

lemma file?_of_read? {bytes : List UInt8} (h : t.read? p = .ok (some bytes)) :
    t.file? p = some bytes := by
  unfold read? at h
  split at h
  · cases h
  · exact Except.ok.inj h

lemma isLong_nothing (t : FileTree) : t.isLong (.parse "") = false := by
  have text : (Path.parse "").text = "." := by decide
  have size : ¬pathLimit < Text.systemSize "." t.places := by
    rw [Text.systemSize_of_common (by decide)]
    decide
  have names : (Path.parse "").names = [] := by decide
  simp only [isLong, text, size, names, meetsLongName, decide_false, Bool.or_self, Bool.and_false]

/-! ### Directories -/

/-- The directory at a path holds a name: the name stands right behind those of the directory. -/
def Holds (t : FileTree) (p : Path) (name : String) : Prop :=
  ∃ directory, t.place? p = some (.inside directory) ∧ t.at? directory = some .directory ∧
    directory ++ [name] ∈ t.entries.map (·.1)

lemma nameIn?_eq_some {directory names : List String} :
    nameIn? directory names = some name ↔ names = directory ++ [name] := by
  unfold nameIn?
  rcases List.eq_nil_or_concat' names with rfl | ⟨front, last, rfl⟩
  · simp
  · by_cases h : front = directory <;> simp [h]

lemma mem_namesIn : name ∈ t.namesIn p ↔ t.Holds p name := by
  unfold namesIn Holds isDirectory entry?
  cases t.place? p with
  | none => simp
  | some place =>
    cases place with
    | above n => simp
    | root => simp
    | inside directory =>
      by_cases h : t.at? directory = some .directory
      · simp [h, nameIn?_eq_some]
      · simp [h]

/-! ### Changes -/

/-- Names stand once. -/
def Distinct (t : FileTree) : Prop :=
  (t.entries.map (·.1)).Nodup

instance (t : FileTree) : Decidable t.Distinct :=
  inferInstanceAs (Decidable (List.Nodup _))

lemma Distinct.sublist {entries : List (List String × Entry)} (h : t.Distinct)
    (fewer : entries.Sublist t.entries) : Distinct { t with entries } :=
  List.Nodup.sublist (fewer.map _) h

lemma Distinct.set (h : t.Distinct) (names : List String) (e : Entry) :
    (t.set names e).Distinct := by
  have others : names ∉ (t.entries.filter (·.1 != names)).map (·.1) := by simp
  unfold Distinct FileTree.set
  rw [List.map_append, List.nodup_append]
  refine ⟨h.sublist List.filter_sublist, List.nodup_singleton _, fun other ho last hl => ?_⟩
  rw [List.mem_singleton.mp hl]
  rintro rfl
  exact others ho

lemma Distinct.makeParents (h : t.Distinct) (done left : List String) :
    (t.makeParents done left).Distinct := by
  fun_induction FileTree.makeParents t done left with
  | case1 => exact h
  | case2 => exact h
  | case3 t done n m rest names ih =>
    refine ih ?_
    split
    · exact h.set _ _
    · exact h

lemma Distinct.applyAt (h : t.Distinct) (names : List String) (change : FileChange) :
    (t.applyAt names change).Distinct := by
  cases change with
  | write bytes => exact (h.makeParents [] names).set _ _
  | makeDirectory =>
    unfold FileTree.applyAt
    dsimp only
    split
    · exact (h.makeParents [] names).set _ _
    · exact h.makeParents [] names
  | remove => exact h.sublist List.filter_sublist

lemma Distinct.apply (h : t.Distinct) (changes : List (String × FileChange)) :
    (t.apply changes).Distinct := by
  unfold FileTree.apply
  induction changes generalizing t with
  | nil => exact h
  | cons change rest ih => exact ih (h.applyAt _ _)

lemma Distinct.namesIn (h : t.Distinct) (p : Path) : (t.namesIn p).Nodup := by
  unfold FileTree.namesIn
  split
  · split
    · case h_1 directory place =>
      have listed : (t.entries.filterMap fun e => nameIn? directory e.1) =
          (t.entries.map (·.1)).filterMap (nameIn? directory) := by
        rw [List.filterMap_map]
        rfl
      rw [listed]
      refine h.filterMap fun a b name ha hb => ?_
      rw [nameIn?_eq_some.mp ha, nameIn?_eq_some.mp hb]
    · exact List.nodup_nil
  · exact List.nodup_nil

end ImageRelease.FileTree
