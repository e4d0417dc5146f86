import Mathlib.Data.List.Lex
import ImageRelease.Text.Surrogate

/-!
Texts and the places of surrogates in them.

The places are for private use, so common characters are what they are wherever the places may be.
A surrogate has its own code point, and no character has it, so a text is known by its code points
and their order is a linear one.
-/

namespace ImageRelease.Text

open Surrogate

/-! ### Common characters -/

/-- A character before all that are for private use, and so before all places of surrogates. -/
def IsCommon (c : Char) : Prop :=
  c.toNat < distance

instance (c : Char) : Decidable (IsCommon c) :=
  Nat.decLt c.toNat distance

def AllCommon (l : List Char) : Prop :=
  ∀ c ∈ l, IsCommon c

-- there are finitely many characters, but these are the ones to look at
instance (l : List Char) : Decidable (AllCommon l) :=
  List.decidableBAll IsCommon l

section

variable {places : Places} {c : Char} {s : String}

lemma Surrogate.distance_le_of_holds (h : places.holds c = true) : distance ≤ c.toNat := by
  obtain ⟨n, hn⟩ := Option.isSome_iff_exists.mp h
  exact places.isPrivate c n hn

lemma IsCommon.holds (h : IsCommon c) : places.holds c = false :=
  Bool.eq_false_iff.mpr fun held => absurd (distance_le_of_holds held) (Nat.not_le.mpr h)

lemma IsCommon.isByte (h : IsCommon c) : places.isByte c = false := by
  have none : places.surrogate? c = none :=
    Option.isNone_iff_eq_none.mp (Option.isSome_eq_false_iff.mp h.holds)
  rw [Places.isByte, none]

lemma systemSize_of_common (common : AllCommon s.toList) :
    systemSize s places = s.toList.foldr (fun c size => c.utf8Size + size) 0 := by
  refine List.foldr_ext _ _ _ fun c hc size => ?_
  rw [(common c hc).isByte]
  rfl

lemma isForSystem_of_common (common : AllCommon s.toList) (some : Char.ofNat 0 ∉ s.toList) :
    isForSystem s places = true := by
  refine List.all_eq_true.mpr fun c hc => ?_
  rw [(common c hc).holds]
  simpa using fun nul : c = Char.ofNat 0 => some (nul ▸ hc)

end

/-! ### Code points -/

lemma Surrogate.ne_toNat {n : Nat} (h : (isHigh n || isLow n) = true) (c : Char) :
    c.toNat ≠ n := by
  have valid := c.valid
  simp only [isHigh, isLow, Bool.or_eq_true, Bool.and_eq_true, decide_eq_true_eq] at h
  simp only [UInt32.isValidChar, Nat.isValidChar] at valid
  rintro rfl
  unfold Char.toNat at h
  omega

variable (places : Places)

lemma Surrogate.Places.code_injective : Function.Injective places.code := by
  intro a b same
  unfold code at same
  cases ha : places.surrogate? a with
  | none =>
    cases hb : places.surrogate? b with
    | none =>
      rw [ha, hb] at same
      exact Char.toNat_inj.mp same
    | some n =>
      rw [ha, hb] at same
      exact absurd same (ne_toNat (places.isSurrogate b n hb) a)
  | some m =>
    cases hb : places.surrogate? b with
    | none =>
      rw [ha, hb] at same
      exact absurd same.symm (ne_toNat (places.isSurrogate a m ha) b)
    | some n =>
      rw [ha, hb] at same
      obtain rfl : m = n := same
      exact places.once a b m ha hb

lemma codes_injective : Function.Injective (codes · places) := fun _ _ same =>
  String.toList_injective (List.map_injective_iff.mpr places.code_injective same)

variable {places}

lemma inOrder_iff {a b : String} :
    inOrder a b places = true ↔ codes a places ≤ codes b places := by
  rw [inOrder, Bool.not_eq_true', Bool.eq_false_iff, ne_eq, List.lex_eq_true_iff_lex, ← not_lt]
  simp only [Nat.blt_eq]
  exact (List.lt_iff_lex_lt _ _).symm.not

/-- What is put in the order of its names, of which none stands twice, stands in that order. -/
lemma pairwise_lt_mergeSort {α : Type} {name : α → String} {l : List α}
    (once : (l.map name).Nodup) :
    (l.mergeSort fun a b => inOrder (name a) (name b) places).Pairwise
      fun a b => codes (name a) places < codes (name b) places := by
  have chained : ∀ a b c, inOrder (name a) (name b) places = true →
      inOrder (name b) (name c) places = true → inOrder (name a) (name c) places = true := by
    simp only [inOrder_iff]
    exact fun a b c => le_trans
  have total : ∀ a b,
      (inOrder (name a) (name b) places || inOrder (name b) (name a) places) = true := by
    simp only [Bool.or_eq_true, inOrder_iff]
    exact fun a b => le_total _ _
  have ordered : (l.mergeSort fun a b => inOrder (name a) (name b) places).Pairwise
      fun a b => codes (name a) places ≤ codes (name b) places :=
    (List.pairwise_mergeSort chained total l).imp inOrder_iff.mp
  have apart : (l.mergeSort fun a b => inOrder (name a) (name b) places).Pairwise
      fun a b => name a ≠ name b :=
    List.pairwise_map.mp (((List.mergeSort_perm l _).map name).nodup_iff.mpr once)
  exact (ordered.and apart).imp fun h => lt_of_le_of_ne h.1 ((codes_injective places).ne h.2)

end ImageRelease.Text
