import Mathlib.Data.List.TakeWhile
import ImageRelease.Json.Writer
import ImageRelease.Proofs.CodePoints
import ImageRelease.Proofs.Version
import ImageRelease.Text.WriteFault

/-!
Text that can be written in UTF-8.

Everything can be written but surrogates that stand alone. A text in quotes has none, whatever it
quotes, since they are not printable and become escapes; so the report of a word that is no mode can
be written for every word. Of an object what is written has none if its texts have none.
-/

namespace ImageRelease

namespace Text

/-- A text without surrogates that stand alone. -/
def IsUnicode (s : String) (places : Surrogate.Places := .usual) : Prop :=
  ∀ c ∈ s.toList, places.holds c = false

variable {places : Surrogate.Places}

lemma any_holds_eq_false_iff {s : String} :
    s.toList.any places.holds = false ↔ IsUnicode s places := by
  simp only [IsUnicode, List.any_eq_false, Bool.not_eq_true]

instance (s : String) (places : Surrogate.Places) : Decidable (IsUnicode s places) :=
  decidable_of_iff _ any_holds_eq_false_iff

lemma isUnicode_append {s t : String} :
    IsUnicode (s ++ t) places ↔ IsUnicode s places ∧ IsUnicode t places := by
  simp only [IsUnicode, String.toList_append, List.forall_mem_append]

lemma IsUnicode.strip {s : String} (h : IsUnicode s places) :
    IsUnicode (Text.strip s) places := by
  intro c hc
  rw [Text.strip, String.toList_ofList] at hc
  exact h c (trim_subset _ hc)

lemma utf8Fault?_eq_none_iff {s : String} :
    utf8Fault? s.toList places = none ↔ IsUnicode s places := by
  have whole : s.toList.takeWhile (!places.holds ·) = s.toList ↔ IsUnicode s places := by
    simp only [List.takeWhile_eq_self_iff, Bool.not_eq_true', IsUnicode]
  rw [← whole]
  unfold utf8Fault? writeFault?
  dsimp only
  split
  · case h_1 none =>
    refine iff_of_true rfl ((List.takeWhile_prefix _).eq_of_length_le ?_)
    exact List.drop_eq_nil_iff.mp none
  · case h_2 some =>
    refine iff_of_false nofun fun same => ?_
    rw [same, List.drop_length] at some
    cases some

lemma isUnicode_of_common {s : String} (common : AllCommon s.toList)
    (places : Surrogate.Places) : IsUnicode s places :=
  fun c hc => (common c hc).holds

/-! ### Texts in quotes -/

lemma isCommon_of_isPrintable {c : Char} (h : isPrintable c = true) : IsCommon c := by
  have last : ∀ n ∈ printable.changes, n ≤ 0xE01F0 := by decide +kernel
  have even : printable.changes.length % 2 = 0 := by decide +kernel
  unfold IsCommon Surrogate.distance
  by_contra beyond
  have all : printable.changes.takeWhile (· ≤ c.toNat) = printable.changes :=
    List.takeWhile_eq_self_iff.mpr fun n hn => by
      have := last n hn
      exact decide_eq_true (by omega)
  rw [isPrintable, CodeSet.contains, all, even] at h
  cases h

lemma isCommon_hex {places n : Nat} {c : Char} (h : c ∈ hex places n) : IsCommon c := by
  have digits : ∀ d < 16, IsCommon (hexDigit d) := by decide
  induction places generalizing n with
  | zero => cases h
  | succ k ih =>
    rcases List.mem_append.mp h with h | h
    · exact ih h
    · rw [List.mem_singleton.mp h]
      exact digits _ (Nat.mod_lt _ (by decide))

lemma isCommon_escaped {n : Nat} {c : Char} (h : c ∈ escaped n) : IsCommon c := by
  have behind {letter : Char} {places : Nat} (common : IsCommon letter)
      (h : c ∈ '\\' :: letter :: hex places n) : IsCommon c := by
    rcases List.mem_cons.mp h with rfl | h
    · decide
    rcases List.mem_cons.mp h with rfl | h
    · exact common
    · exact isCommon_hex h
  unfold escaped at h
  split at h
  · exact behind (by decide) h
  split at h
  · exact behind (by decide) h
  · exact behind (by decide) h

lemma isCommon_quotedChar {quote c : Char} (common : IsCommon quote) {d : Char}
    (h : d ∈ quotedChar quote c) : IsCommon d := by
  have both {l : List Char} (letters : AllCommon l) (h : d ∈ l) : IsCommon d :=
    letters d h
  unfold quotedChar at h
  split at h
  · case isTrue marked =>
    rcases List.mem_cons.mp h with rfl | h
    · decide
    · rw [List.mem_singleton.mp h]
      rcases marked with rfl | rfl
      · exact common
      · decide
  iterate 3
    split at h
    · exact both (by decide) h
  split at h
  · case isTrue printable =>
    rw [List.mem_singleton.mp h]
    exact isCommon_of_isPrintable printable
  · exact isCommon_escaped h

lemma isUnicode_quoted (s : String) : IsUnicode (quoted s) places := by
  have quote : IsCommon (quoteFor s.toList) := by
    unfold quoteFor
    split <;> decide
  refine isUnicode_of_common (fun c hc => ?_) places
  rw [quoted, String.toList_ofList, List.mem_append, List.mem_cons, List.mem_singleton,
    List.mem_flatMap] at hc
  obtain (rfl | ⟨d, -, hc⟩) | rfl := hc
  · exact quote
  · exact isCommon_quotedChar quote hc
  · exact quote

end Text

namespace Json

open Text

variable {places : Surrogate.Places}

/-- What is written for a character is that character, or it is common. -/
lemma mem_plainChar {c d : Char} (h : d ∈ plainChar c) : IsCommon d ∨ d = c := by
  have letters : ∀ e, shortEscape? c = some e → IsCommon e := by
    intro e short
    unfold shortEscape? at short
    repeat' split at short
    all_goals first | cases short; decide | cases short
  have backslash : IsCommon '\\' := by decide
  unfold plainChar at h
  split at h
  · case h_1 e short =>
    rcases List.mem_cons.mp h with rfl | h
    · exact .inl backslash
    · rw [List.mem_singleton.mp h]
      exact .inl (letters e short)
  split at h
  · rcases List.mem_cons.mp h with rfl | h
    · exact .inl backslash
    rcases List.mem_cons.mp h with rfl | h
    · exact .inl (by decide)
    · exact .inl (isCommon_hex h)
  · exact .inr (List.mem_singleton.mp h)

lemma isUnicode_stringText {s : String} (h : IsUnicode s places) :
    IsUnicode (stringText plainChar s) places := by
  have quote : IsCommon '"' := by decide
  intro c hc
  rw [stringText, String.toList_ofList, List.mem_append, List.mem_cons, List.mem_singleton,
    List.mem_flatMap] at hc
  obtain (rfl | ⟨d, hd, hc⟩) | rfl := hc
  · exact quote.holds
  · rcases mem_plainChar hc with common | rfl
    · exact common.holds
    · exact h c hd
  · exact quote.holds

lemma plainChar_of_holds {c : Char} (held : places.holds c = true) : plainChar c = [c] := by
  have beyond : 0xF0000 ≤ c.toNat := Surrogate.distance_le_of_holds held
  have other {d : Char} (common : IsCommon d) : c ≠ d := by
    rintro rfl
    exact absurd beyond (Nat.not_le.mpr common)
  have short : shortEscape? c = none := by
    simp only [shortEscape?, other (d := '"') (by decide), other (d := '\\') (by decide),
      other (d := '\n') (by decide), other (d := '\r') (by decide), other (d := '\t') (by decide),
      ↓reduceIte]
    rw [if_neg (by omega), if_neg (by omega)]
  simp only [plainChar, short, if_neg (show ¬c.toNat < 0x20 by omega)]

lemma utf8Fault?_of_stringText {s : String} (h : IsUnicode (stringText plainChar s) places) :
    utf8Fault? s.toList places = none := by
  refine utf8Fault?_eq_none_iff.mpr fun c hc => Bool.eq_false_iff.mpr fun held => ?_
  have quoted : c ∈ (stringText plainChar s).toList := by
    rw [stringText, String.toList_ofList]
    refine List.mem_append_left _ (List.mem_cons_of_mem _ (List.mem_flatMap.mpr ⟨c, hc, ?_⟩))
    rw [plainChar_of_holds held]
    exact List.mem_singleton_self c
  cases held.symm.trans (h c quoted)

mutual

lemma writeFault?_of_dense : ∀ v : Json, IsUnicode v.dense places → v.writeFault? places = none
  | null => fun _ => rfl
  | bool _ => fun _ => rfl
  | int _ => fun _ => rfl
  | float _ => fun _ => rfl
  | str s => fun h => by
    rw [dense, onLine, atomText] at h
    · exact utf8Fault?_of_stringText h
    · exact nofun
    · exact nofun
  | arr items => fun h => by
    rw [dense, onLine, isUnicode_append, isUnicode_append] at h
    exact itemsWriteFault?_of_line items h.1.2
  | obj fields => fun h => by
    rw [dense, onLine, isUnicode_append, isUnicode_append] at h
    exact fieldsWriteFault?_of_line fields h.1.2

lemma itemsWriteFault?_of_line : ∀ items : List Json,
    IsUnicode (itemsOnLine denseStyle items) places → itemsWriteFault? places items = none
  | [] => fun _ => rfl
  | [x] => fun h => by
    rw [itemsOnLine] at h
    rw [itemsWriteFault?, writeFault?_of_dense x h]
    rfl
  | x :: y :: rest => fun h => by
    rw [itemsOnLine, isUnicode_append, isUnicode_append] at h
    rw [itemsWriteFault?, writeFault?_of_dense x h.1.1, itemsWriteFault?_of_line _ h.2]
    rfl

lemma fieldsWriteFault?_of_line : ∀ fields : List (String × Json),
    IsUnicode (fieldsOnLine denseStyle fields) places → fieldsWriteFault? places fields = none
  | [] => fun _ => rfl
  | [(n, v)] => fun h => by
    rw [fieldsOnLine, isUnicode_append, isUnicode_append] at h
    rw [fieldsWriteFault?, utf8Fault?_of_stringText h.1.1, writeFault?_of_dense v h.2]
    rfl
  | (n, v) :: f :: rest => fun h => by
    simp only [fieldsOnLine, isUnicode_append] at h
    obtain ⟨⟨⟨⟨name, -⟩, value⟩, -⟩, others⟩ := h
    rw [fieldsWriteFault?, utf8Fault?_of_stringText name, writeFault?_of_dense v value,
      fieldsWriteFault?_of_line _ others]
    rfl

end

/-- A value that can be written: its doubles are finite, and no surrogate stands alone in it. -/
def Writable (v : Json) (places : Surrogate.Places := .usual) : Prop :=
  v.isStrict = true ∧ IsUnicode v.dense places

instance (v : Json) (places : Surrogate.Places) : Decidable (v.Writable places) :=
  inferInstanceAs (Decidable (_ ∧ _))

lemma isUnicode_dense {fields : List (String × Json)}
    (h : ∀ f ∈ fields, IsUnicode f.1 places ∧ IsUnicode f.2.dense places) :
    IsUnicode (dense (.obj fields)) places := by
  have mark {t : String} (common : AllCommon t.toList) : IsUnicode t places :=
    isUnicode_of_common common places
  have inner : IsUnicode (fieldsOnLine denseStyle fields) places := by
    induction fields with
    | nil => exact mark (by decide)
    | cons f rest ih =>
      obtain ⟨name, value⟩ := h f List.mem_cons_self
      have others := ih fun g hg => h g (List.mem_cons_of_mem _ hg)
      have start : IsUnicode (stringText plainChar f.1 ++ ":" ++ f.2.dense) places :=
        isUnicode_append.mpr
          ⟨isUnicode_append.mpr ⟨isUnicode_stringText name, mark (by decide)⟩, value⟩
      cases rest with
      | nil => exact start
      | cons g more =>
        exact isUnicode_append.mpr ⟨isUnicode_append.mpr ⟨start, mark (by decide)⟩, others⟩
  exact isUnicode_append.mpr ⟨isUnicode_append.mpr ⟨mark (by decide), inner⟩, mark (by decide)⟩

end Json

end ImageRelease
