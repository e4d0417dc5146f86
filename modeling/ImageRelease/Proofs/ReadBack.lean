import Mathlib.Data.List.Basic
import ImageRelease.Json.Bytes
import ImageRelease.Json.Writer
import ImageRelease.Proofs.Utf8

/-!
What is written is read back.

An object of texts that is written without blanks is read as the same object, whatever characters
its texts have: `read_dense` follows the readers along what the writers leave, character by
character.
-/

namespace ImageRelease

namespace Json

/-! ### Texts in quotes -/

lemma fourHex?_hex {n : Nat} (control : n < 0x20) (rest : List Char) :
    fourHex? (Text.hex 4 n ++ rest) = some n := by
  have four : (Text.hex 4 n).length = 4 := Text.length_hex 4 n
  have digits : ∀ m < 0x20, (Text.hex 4 m).foldl
      (fun n c => do return (← n) * 16 + (← Text.hexValue? c)) (some 0) = some m := by
    decide
  unfold fourHex?
  rw [if_neg, List.take_left' four, digits n control]
  intro short
  have length := congrArg List.length short
  rw [List.length_drop, List.length_append, four, List.length_nil] at length
  omega

lemma unicodeEscape_control {n pos : Nat} (control : n < 0x20) {rest : List Char}
    (some : rest ≠ []) :
    unicodeEscape ⟨pos, 'u' :: Text.hex 4 n ++ rest⟩ = .ok (Char.ofNat n, 5) := by
  have four : (Text.hex 4 n).length = 4 := Text.length_hex 4 n
  have high : Text.Surrogate.isHigh n = false := by
    simp only [Text.Surrogate.isHigh, Bool.and_eq_false_imp, decide_eq_true_eq]
    omega
  have low : Text.Surrogate.isLow n = false := by
    simp only [Text.Surrogate.isLow, Bool.and_eq_false_imp, decide_eq_true_eq]
    omega
  have unit : Text.Surrogate.ofUnit n = Char.ofNat n := by
    rw [Text.Surrogate.ofUnit, high, low]
    rfl
  unfold unicodeEscape
  simp only [List.cons_append, List.drop_succ_cons, List.drop_zero, List.drop_left' four,
    fourHex?_hex control, high, unit, if_neg some]
  split
  · rw [if_neg fun h => Bool.false_ne_true h.1]
    rfl
  · rfl

/-- A letter of an escape stands for the character that it was written for. -/
lemma simpleEscape?_of_shortEscape? {c e : Char} (h : shortEscape? c = some e) :
    simpleEscape? e = some c ∧ e ≠ 'u' := by
  have byCode {n : Nat} (short : n < 0x20) (code : c.toNat = n) : c = Char.ofNat n := by
    rw [← code, Char.ofNat_toNat]
  unfold shortEscape? at h
  repeat' split at h
  all_goals first
    | cases h; subst_vars; exact ⟨rfl, by decide⟩
    | cases h; rename_i code; rw [byCode (by decide) code]; exact ⟨rfl, by decide⟩
    | cases h

section

variable {start fuel pos : Nat} {rest done : List Char}

lemma readString_letter {c e : Char} (simple : simpleEscape? e = some c) (other : e ≠ 'u') :
    readString start (fuel + 1) ⟨pos, '\\' :: e :: rest⟩ done =
      readString start fuel ⟨pos + 2, rest⟩ (c :: done) := by
  rw [readString]
  split
  · case h_1 h => cases h
  · case h_2 h => cases h
  · case h_3 h => cases h
  · case h_4 h => cases h; exact absurd rfl other
  · case h_5 h => cases h; rw [simple]; rfl
  · case h_6 no h => cases h; exact (no _ _ rfl rfl).elim

lemma readString_control {n : Nat} (control : n < 0x20) (some : rest ≠ []) :
    readString start (fuel + 1) ⟨pos, '\\' :: 'u' :: Text.hex 4 n ++ rest⟩ done =
      readString start fuel ⟨pos + 6, rest⟩ (Char.ofNat n :: done) := by
  have four : (Text.hex 4 n).length = 4 := Text.length_hex 4 n
  have read : unicodeEscape ((Cursor.mk pos ('\\' :: 'u' :: (Text.hex 4 n ++ rest))).skip 1) =
      .ok (Char.ofNat n, 5) := unicodeEscape_control control some
  have kept : ('\\' :: 'u' :: (Text.hex 4 n ++ rest)).drop 6 = rest := List.drop_left' four
  rw [List.cons_append, List.cons_append, readString]
  split
  · case h_1 h => cases h
  · case h_2 h => cases h
  · case h_3 h => cases h
  · case h_4 h =>
    cases h
    rw [read]
    dsimp only [Cursor.skip, Nat.reduceAdd]
    rw [kept]
  · case h_5 other h => cases h; exact (other rfl).elim
  · case h_6 no h => cases h; exact (no _ _ rfl rfl).elim

lemma readString_plain {c : Char} (quote : c ≠ '"') (escape : c ≠ '\\')
    (control : ¬c.toNat < 0x20) :
    readString start (fuel + 1) ⟨pos, c :: rest⟩ done =
      readString start fuel ⟨pos + 1, rest⟩ (c :: done) := by
  rw [readString]
  split
  · case h_1 h => cases h
  · case h_2 h => cases h; exact absurd rfl quote
  · case h_3 h => cases h; exact absurd rfl escape
  · case h_4 h => cases h; exact absurd rfl escape
  · case h_5 h => cases h; exact absurd rfl escape
  · case h_6 h => cases h; rw [if_neg control]; rfl

lemma readString_end : readString start (fuel + 1) ⟨pos, '"' :: rest⟩ done =
    .ok (.ofList done.reverse, ⟨pos + 1, rest⟩) :=
  rfl

lemma readString_plainChar (c : Char) (some : rest ≠ []) :
    readString start (fuel + 1) ⟨pos, plainChar c ++ rest⟩ done =
      readString start fuel ⟨pos + (plainChar c).length, rest⟩ (c :: done) := by
  unfold plainChar
  cases short : shortEscape? c with
  | some e =>
    obtain ⟨simple, other⟩ := simpleEscape?_of_shortEscape? short
    exact readString_letter simple other
  | none =>
    dsimp only
    split
    · case isTrue control =>
      have length : ('\\' :: 'u' :: Text.hex 4 c.toNat).length = 6 := by
        rw [List.length_cons, List.length_cons, Text.length_hex]
      rw [readString_control control some, length, Char.ofNat_toNat]
    · case isFalse control =>
      have quote : c ≠ '"' := by rintro rfl; cases short
      have escape : c ≠ '\\' := by rintro rfl; cases short
      exact readString_plain quote escape control

lemma readString_flatMap (l : List Char) (enough : l.length < fuel) :
    readString start fuel ⟨pos, l.flatMap plainChar ++ '"' :: rest⟩ done =
      .ok (.ofList (done.reverse ++ l), ⟨pos + (l.flatMap plainChar).length + 1, rest⟩) := by
  induction l generalizing fuel pos done with
  | nil =>
    obtain ⟨fuel, rfl⟩ := Nat.exists_eq_succ_of_ne_zero (Nat.ne_of_gt enough)
    rw [List.append_nil]
    exact readString_end
  | cons c l ih =>
    obtain ⟨fuel, rfl⟩ := Nat.exists_eq_succ_of_ne_zero (Nat.ne_zero_of_lt enough)
    rw [List.flatMap_cons, List.append_assoc, readString_plainChar c (by simp),
      ih (Nat.lt_of_succ_lt_succ enough), List.reverse_cons, List.append_assoc,
      List.length_append, Nat.add_assoc pos]
    rfl

end

/-! ### Objects of texts -/

lemma length_le_flatMap (l : List Char) : l.length ≤ (l.flatMap plainChar).length := by
  have some (c : Char) : 1 ≤ (plainChar c).length := by
    unfold plainChar
    split
    · exact Nat.le_add_left _ _
    · split <;> exact Nat.le_add_left _ _
  induction l with
  | nil => exact Nat.le_refl _
  | cons c l ih =>
    rw [List.flatMap_cons, List.length_append, List.length_cons, Nat.add_comm]
    exact Nat.add_le_add (some c) ih

lemma toList_stringText (char : Char → List Char) (s : String) :
    (stringText char s).toList = '"' :: (s.toList.flatMap char ++ ['"']) :=
  String.toList_ofList

lemma string_stringText (pos : Nat) (s : String) (rest : List Char) : ∃ next,
    ((Cursor.mk pos ((stringText plainChar s).toList ++ rest)).skip 1).string =
      .ok (s, ⟨next, rest⟩) := by
  have inner : (Cursor.mk pos ((stringText plainChar s).toList ++ rest)).skip 1 =
      ⟨pos + 1, s.toList.flatMap plainChar ++ '"' :: rest⟩ := by
    rw [toList_stringText, List.cons_append, List.append_assoc]
    rfl
  have enough : s.toList.length <
      (s.toList.flatMap plainChar ++ '"' :: rest).length + 1 := by
    have least := length_le_flatMap s.toList
    rw [List.length_append]
    omega
  rw [inner, Cursor.string, readString_flatMap _ enough, List.reverse_nil, List.nil_append,
    String.ofList_toList]
  exact ⟨_, rfl⟩

lemma skipSpace_of_head {c : Char} (h : isSpace c = false) (pos : Nat) (rest : List Char) :
    (Cursor.mk pos (c :: rest)).skipSpace = ⟨pos, c :: rest⟩ := by
  rw [Cursor.skipSpace, List.takeWhile_cons_of_neg (by rw [h]; exact Bool.false_ne_true)]
  rfl

/-- An object of texts. -/
def texts (fields : List (String × String)) : List (String × Json) :=
  fields.map fun f => (f.1, .str f.2)

lemma stringText_append (s : String) (rest : List Char) :
    ∃ more, (stringText plainChar s).toList ++ rest = '"' :: more := by
  rw [toList_stringText]
  exact ⟨_, rfl⟩

lemma readValue_text (limits : Limits) (fuel room pos : Nat) (s : String) (rest : List Char) :
    ∃ next, readValue limits (fuel + 1) room ⟨pos, (stringText plainChar s).toList ++ rest⟩ =
      .ok (.str s, ⟨next, rest⟩) := by
  obtain ⟨next, read⟩ := string_stringText pos s rest
  obtain ⟨more, head⟩ := stringText_append s rest
  refine ⟨next, ?_⟩
  rw [readValue.eq_2 limits _ fuel room more head, read]
  rfl

lemma readFields_field (limits : Limits) (fuel room pos : Nat) (name value : String) {after : Char}
    (plain : isSpace after = false) (rest : List Char) (done : List (String × Json)) : ∃ next,
    readFields limits (fuel + 2) room ⟨pos, (stringText plainChar name).toList ++ ':' ::
        ((stringText plainChar value).toList ++ after :: rest)⟩ done =
      match after :: rest with
      | '\x7d' :: _ => .ok (Entries.put name (.str value) done, ⟨next + 1, rest⟩)
      | ',' :: _ => readFields limits (fuel + 1) room (Cursor.mk (next + 1) rest).skipSpace
          (Entries.put name (.str value) done)
      | _ => refused .comma next := by
  obtain ⟨inner, quote⟩ := stringText_append value (after :: rest)
  obtain ⟨mid, named⟩ := string_stringText pos name
    (':' :: ((stringText plainChar value).toList ++ after :: rest))
  obtain ⟨next, valued⟩ := readValue_text limits fuel room (mid + 1) value (after :: rest)
  generalize (stringText plainChar value).toList ++ after :: rest = behind
    at quote named valued ⊢
  obtain ⟨more, head⟩ := stringText_append name (':' :: behind)
  have colon : (Cursor.mk mid (':' :: behind)).skipSpace = ⟨mid, ':' :: behind⟩ :=
    skipSpace_of_head (by decide) _ _
  have start : ((Cursor.mk mid (':' :: behind)).skip 1).skipSpace = ⟨mid + 1, behind⟩ := by
    rw [quote]
    exact skipSpace_of_head (by decide) _ _
  have ended : (Cursor.mk next (after :: rest)).skipSpace = ⟨next, after :: rest⟩ :=
    skipSpace_of_head plain _ _
  refine ⟨next, ?_⟩
  rw [readFields, head]
  dsimp only
  rw [← head, named]
  dsimp only
  rw [colon]
  dsimp only
  rw [start, valued, head]
  dsimp only
  rw [ended]
  rfl

lemma toList_fieldsOnLine_cons (f : String × String) (fields : List (String × String)) :
    (fieldsOnLine denseStyle (texts (f :: fields))).toList =
      (stringText plainChar f.1).toList ++ ':' :: ((stringText plainChar f.2).toList ++
        match fields with
        | [] => []
        | g :: more => ',' :: (fieldsOnLine denseStyle (texts (g :: more))).toList) := by
  cases fields with
  | nil => simp [texts, fieldsOnLine, denseStyle, onLine, atomText]
  | cons g more => simp [texts, fieldsOnLine, denseStyle, onLine, atomText]

lemma fieldsOnLine_head (f : String × String) (fields : List (String × String))
    (rest : List Char) :
    ∃ more, (fieldsOnLine denseStyle (texts (f :: fields))).toList ++ rest = '"' :: more := by
  rw [toList_fieldsOnLine_cons, List.append_assoc]
  exact stringText_append f.1 _

lemma readFields_texts (limits : Limits) (room pos : Nat) (f : String × String)
    (fields : List (String × String)) (rest : List Char) {fuel : Nat}
    (enough : fields.length + 1 < fuel) (done : List (String × Json)) : ∃ next,
    readFields limits fuel room
        ⟨pos, (fieldsOnLine denseStyle (texts (f :: fields))).toList ++ '\x7d' :: rest⟩ done =
      .ok (Entries.merge done (texts (f :: fields)), ⟨next, rest⟩) := by
  induction fields generalizing f pos fuel done with
  | nil =>
    obtain ⟨fuel, rfl⟩ : ∃ m, fuel = m + 2 := ⟨fuel - 2, by omega⟩
    obtain ⟨next, read⟩ := readFields_field limits fuel room pos f.1 f.2
      (show isSpace '\x7d' = false by decide) rest done
    refine ⟨next + 1, ?_⟩
    rw [toList_fieldsOnLine_cons, List.append_nil, List.append_assoc, List.cons_append, read]
    rfl
  | cons g more ih =>
    obtain ⟨fuel, rfl⟩ : ∃ m, fuel = m + 2 := ⟨fuel - 2, by omega⟩
    obtain ⟨mid, read⟩ := readFields_field limits fuel room pos f.1 f.2
      (show isSpace ',' = false by decide)
      ((fieldsOnLine denseStyle (texts (g :: more))).toList ++ '\x7d' :: rest) done
    obtain ⟨next, others⟩ := ih (mid + 1) g (show more.length + 1 < fuel + 1 from
      Nat.lt_of_succ_lt_succ enough) (Entries.put f.1 (.str f.2) done)
    obtain ⟨inner, head⟩ := fieldsOnLine_head g more ('\x7d' :: rest)
    refine ⟨next, ?_⟩
    rw [toList_fieldsOnLine_cons, List.append_assoc, List.cons_append, List.append_assoc,
      List.cons_append, read]
    generalize (fieldsOnLine denseStyle (texts (g :: more))).toList ++ '\x7d' :: rest = behind
      at others head ⊢
    have start : (Cursor.mk (mid + 1) behind).skipSpace = ⟨mid + 1, behind⟩ := by
      rw [head]
      exact skipSpace_of_head (by decide) _ _
    rw [start]
    exact others

lemma length_le_fieldsOnLine (fields : List (String × String)) :
    fields.length ≤ (fieldsOnLine denseStyle (texts fields)).toList.length := by
  induction fields with
  | nil => exact Nat.zero_le _
  | cons f fields ih =>
    rw [toList_fieldsOnLine_cons, List.length_append, List.length_cons, List.length_cons,
      List.length_append]
    cases fields with
    | nil => exact Nat.le_trans (Nat.le_add_left 1 _) (Nat.le_add_left _ _)
    | cons g more =>
      dsimp only
      rw [List.length_cons (a := ',')]
      omega

lemma readValue_texts (limits : Limits) (room pos : Nat) (fields : List (String × String))
    (rest : List Char) {fuel : Nat} (enough : fields.length < fuel) : ∃ next,
    readValue limits (fuel + 1) (room + 1)
        ⟨pos, '\x7b' :: ((fieldsOnLine denseStyle (texts fields)).toList ++ '\x7d' :: rest)⟩ =
      .ok (.obj (Entries.ofPairs (texts fields)), ⟨next, rest⟩) := by
  rw [readValue.eq_6 limits _ fuel room _ rfl]
  cases fields with
  | nil => exact ⟨pos + 1 + 1, rfl⟩
  | cons f fields =>
    obtain ⟨inner, head⟩ := fieldsOnLine_head f fields ('\x7d' :: rest)
    obtain ⟨next, read⟩ := readFields_texts limits room (pos + 1) f fields rest enough []
    refine ⟨next, ?_⟩
    generalize (fieldsOnLine denseStyle (texts (f :: fields))).toList ++ '\x7d' :: rest = behind
      at read head ⊢
    have start : ((Cursor.mk pos ('\x7b' :: behind)).skip 1).skipSpace = ⟨pos + 1, behind⟩ := by
      rw [head]
      exact skipSpace_of_head (by decide) _ _
    rw [start, read, head]
    rfl

lemma toList_dense_texts (fields : List (String × String)) :
    (dense (.obj (texts fields))).toList =
      '\x7b' :: ((fieldsOnLine denseStyle (texts fields)).toList ++ ['\x7d']) := by
  simp [dense, onLine]

/-- **An object of texts is read back**; of two fields of one name the last counts. -/
theorem read_dense (fields : List (String × String)) (limits : Limits)
    (deep : limits.depth ≠ 0) :
    read (dense (.obj (texts fields))).toList limits =
      .ok (.obj (Entries.ofPairs (texts fields))) := by
  obtain ⟨room, depth⟩ := Nat.exists_eq_succ_of_ne_zero deep
  rw [toList_dense_texts]
  have start : (Cursor.mk 0 ('\x7b' :: ((fieldsOnLine denseStyle (texts fields)).toList ++
      ['\x7d']))).skipSpace = ⟨0, _⟩ := skipSpace_of_head (by decide) _ _
  obtain ⟨next, value⟩ := readValue_texts limits room 0 fields []
    (show fields.length < 2 * ('\x7b' :: ((fieldsOnLine denseStyle (texts fields)).toList ++
        ['\x7d'])).length + 1 by
      have least := length_le_fieldsOnLine fields
      rw [List.length_cons, List.length_append]
      omega)
  rw [read, start, depth, value]
  rfl

/-! ### Objects as bytes -/

/-- Where the first two bytes are no zeros, the others are not looked at. -/
lemma Encoding.of_nonzero {a b : UInt8} (first : a ≠ 0) (second : b ≠ 0) (rest : List UInt8) :
    Encoding.of (a :: b :: rest) = .utf8 := by
  match rest with
  | [] => simp only [Encoding.of, first, second, ↓reduceIte]
  | [_] => rfl
  | _ :: _ :: _ => simp only [Encoding.of, first, second, ↓reduceIte]

/-- An object of texts that comes in bytes is a text, and is read as what it was. -/
theorem textOf?_dense (fields : List (String × String)) :
    textOf? (Text.Utf8.encode (dense (.obj (texts fields))).toList) =
      some (dense (.obj (texts fields))).toList := by
  rw [toList_dense_texts]
  have utf8 : Encoding.of (Text.Utf8.encode ('\x7b' ::
      ((fieldsOnLine denseStyle (texts fields)).toList ++ ['\x7d']))) = .utf8 := by
    cases fields with
    | nil => rfl
    | cons f fields =>
      obtain ⟨more, head⟩ := fieldsOnLine_head f fields ['\x7d']
      rw [head]
      exact Encoding.of_nonzero (by decide) (by decide) _
  rw [textOf?, utf8, Encoding.decode?, Text.Utf8.decode_encode]
  rfl

end Json

end ImageRelease
