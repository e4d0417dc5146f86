import Mathlib.Algebra.Group.Nat.Defs
import Mathlib.Data.List.Basic
import ImageRelease.Text.Utf8

/-!
Text in UTF-8.

Encoding and decoding undo each other. What is encoded is decoded to itself, since each character is
read from its own bytes; and what is decoded at all was encoded, since the decoder knows of every
character that has begun how the bytes that were read spell it. So `decode_eq_ok_iff` says exactly
which bytes are text.
-/

namespace ImageRelease

namespace Text.Utf8

/-! ### Characters as bytes -/

lemma toNat_ofNat {n : Nat} (h : n < 256) : (UInt8.ofNat n).toNat = n := by
  rw [UInt8.toNat_ofNat']
  exact Nat.mod_eq_of_lt h

lemma begin?_three {b : UInt8} (least : 0xE0 ≤ b.toNat) (most : b.toNat < 0xF0) :
    begin? b = some (.inr ⟨b, 1, 1, b.toNat - 0xE0, if b.toNat = 0xE0 then 0xA0 else 0x80,
      if b.toNat = 0xED then 0x9F else 0xBF⟩) := by
  unfold begin?
  dsimp only
  rw [if_neg (by omega), if_neg (by omega), if_neg (by omega)]
  by_cases first : b.toNat = 0xE0
  · simp [first]
  by_cases surrogates : b.toNat = 0xED
  · simp [surrogates]
  · simp [first, surrogates, most]

lemma begin?_four {b : UInt8} (least : 0xF0 ≤ b.toNat) (most : b.toNat ≤ 0xF4) :
    begin? b = some (.inr ⟨b, 1, 2, b.toNat - 0xF0, if b.toNat = 0xF0 then 0x90 else 0x80,
      if b.toNat = 0xF4 then 0x8F else 0xBF⟩) := by
  unfold begin?
  dsimp only
  rw [if_neg (by omega), if_neg (by omega), if_neg (by omega), if_neg (by omega),
    if_neg (by omega), if_neg (by omega)]
  by_cases first : b.toNat = 0xF0
  · simp [first]
  by_cases last : b.toNat = 0xF4
  · simp [last]
  · rw [if_neg first, if_pos (by omega), if_neg first, if_neg last]

lemma decodeFrom_last {p : Pending} {n pos : Nat} {c : Char} {rest : List UInt8}
    (low : p.low ≤ n) (high : n ≤ p.high) (byte : n < 256) (none : p.more = 0)
    (whole : p.bits * 64 + (n - 0x80) = c.toNat) :
    decodeFrom pos (some p) (UInt8.ofNat n :: rest) =
      (decodeFrom (pos + 1) .none rest).map (c :: ·) := by
  have read : p.goOn? (UInt8.ofNat n) = some (.inl c) := by
    unfold Pending.goOn?
    rw [toNat_ofNat byte, if_pos ⟨low, high⟩, none, whole]
    simp
  rw [decodeFrom, read]

lemma decodeFrom_more {p : Pending} {n pos m : Nat} {rest : List UInt8}
    (low : p.low ≤ n) (high : n ≤ p.high) (byte : n < 256) (further : p.more = m + 1) :
    decodeFrom pos (some p) (UInt8.ofNat n :: rest) = decodeFrom (pos + 1)
      (some ⟨p.lead, p.seen + 1, m, p.bits * 64 + (n - 0x80), 0x80, 0xBF⟩) rest := by
  have read : p.goOn? (UInt8.ofNat n) =
      some (.inr ⟨p.lead, p.seen + 1, m, p.bits * 64 + (n - 0x80), 0x80, 0xBF⟩) := by
    unfold Pending.goOn?
    rw [toNat_ofNat byte, if_pos ⟨low, high⟩, further]
  rw [decodeFrom, read]

lemma decodeFrom_char (c : Char) (pos : Nat) (rest : List UInt8) :
    ∃ next, decodeFrom pos none (String.utf8EncodeChar c ++ rest) =
      (decodeFrom next none rest).map (c :: ·) := by
  have valid : c.toNat < 0xD800 ∨ 0xDFFF < c.toNat ∧ c.toNat < 0x110000 := c.valid
  have value : c.val.toNat = c.toNat := rfl
  unfold String.utf8EncodeChar
  dsimp only
  rw [value]
  generalize hv : c.toNat = v at valid
  -- the bytes after the first have six bits each, and a lead has what is left
  have last : 0x80 ≤ v % 0x40 + 0x80 ∧ v % 0x40 + 0x80 ≤ 0xBF := by omega
  have middle : 0x80 ≤ v / 64 % 0x40 + 0x80 ∧ v / 64 % 0x40 + 0x80 ≤ 0xBF := by omega
  split
  · case isTrue one =>
    have read : begin? (UInt8.ofNat v) = some (.inl c) := by
      unfold begin?
      dsimp only
      rw [toNat_ofNat (by omega), if_pos (by omega), ← hv, Char.ofNat_toNat]
    refine ⟨pos + 1, ?_⟩
    rw [List.singleton_append, decodeFrom, read]
  split
  · case isTrue two =>
    have lead : (UInt8.ofNat (v / 64 % 0x20 + 0xc0)).toNat = v / 64 % 0x20 + 0xc0 :=
      toNat_ofNat (by omega)
    have read : begin? (UInt8.ofNat (v / 64 % 0x20 + 0xc0)) = some (.inr
        ⟨UInt8.ofNat (v / 64 % 0x20 + 0xc0), 1, 0, v / 64 % 0x20, 0x80, 0xBF⟩) := by
      unfold begin?
      dsimp only
      rw [lead, if_neg (by omega), if_neg (by omega), if_pos (by omega), Nat.add_sub_cancel]
    refine ⟨pos + 1 + 1, ?_⟩
    rw [List.cons_append, decodeFrom, read]
    exact decodeFrom_last last.1 last.2 (by omega) rfl (by dsimp only; omega)
  split
  · case isTrue three =>
    have lead : (UInt8.ofNat (v / 4096 % 0x10 + 0xe0)).toNat = v / 4096 % 0x10 + 0xe0 :=
      toNat_ofNat (by omega)
    have read := begin?_three (b := UInt8.ofNat (v / 4096 % 0x10 + 0xe0)) (by omega) (by omega)
    refine ⟨pos + 1 + 1 + 1, ?_⟩
    rw [List.cons_append, decodeFrom, read, lead]
    dsimp only
    rw [List.cons_append, decodeFrom_more (m := 0) ?low ?high (by omega) rfl]
    case low => dsimp only; split <;> omega
    case high => dsimp only; split <;> omega
    exact decodeFrom_last last.1 last.2 (by omega) rfl (by dsimp only; omega)
  · case isFalse four =>
    have lead : (UInt8.ofNat (v / 262144 % 0x08 + 0xf0)).toNat = v / 262144 % 0x08 + 0xf0 :=
      toNat_ofNat (by omega)
    have read := begin?_four (b := UInt8.ofNat (v / 262144 % 0x08 + 0xf0)) (by omega) (by omega)
    refine ⟨pos + 1 + 1 + 1 + 1, ?_⟩
    rw [List.cons_append, decodeFrom, read, lead]
    dsimp only
    rw [List.cons_append, decodeFrom_more (m := 1) ?low ?high (by omega) rfl, List.cons_append,
      decodeFrom_more (m := 0) middle.1 middle.2 (by omega) rfl]
    case low => dsimp only; split <;> omega
    case high => dsimp only; split <;> omega
    exact decodeFrom_last last.1 last.2 (by omega) rfl (by dsimp only; omega)

/-- **Text is decoded to itself.** -/
theorem decode_encode (l : List Char) : decode (encode l) = .ok l := by
  have general (l : List Char) (pos : Nat) : decodeFrom pos none (encode l) = .ok l := by
    induction l generalizing pos with
    | nil => rfl
    | cons c rest ih =>
      have parts : encode (c :: rest) = String.utf8EncodeChar c ++ encode rest := rfl
      obtain ⟨next, read⟩ := decodeFrom_char c pos (encode rest)
      rw [parts, read, ih]
      rfl
  exact general l 0

/-! ### Bytes as characters -/

lemma begin?_two {b : UInt8} (least : 0xC2 ≤ b.toNat) (most : b.toNat < 0xE0) :
    begin? b = some (.inr ⟨b, 1, 0, b.toNat - 0xC0, 0x80, 0xBF⟩) := by
  unfold begin?
  dsimp only
  rw [if_neg (by omega), if_neg (by omega), if_pos most]

/-- The last bytes of the character with a number, with six bits each. -/
def trailing : Nat → Nat → List UInt8
  | 0, _ => []
  | n + 1, v => UInt8.ofNat (v / 64 ^ n % 64 + 0x80) :: trailing n v

lemma encodeChar_one {c : Char} (most : c.toNat < 0x80) :
    String.utf8EncodeChar c = [UInt8.ofNat c.toNat] := by
  have value : c.val.toNat = c.toNat := rfl
  unfold String.utf8EncodeChar
  dsimp only
  rw [value, if_pos (by omega)]

lemma encodeChar_two {c : Char} (least : 0x80 ≤ c.toNat) (most : c.toNat < 0x800) :
    String.utf8EncodeChar c = UInt8.ofNat (c.toNat / 64 + 0xC0) :: trailing 1 c.toNat := by
  have value : c.val.toNat = c.toNat := rfl
  have bits : c.toNat / 64 % 0x20 = c.toNat / 64 := by omega
  unfold String.utf8EncodeChar
  dsimp only
  rw [value, if_neg (by omega), if_pos (by omega), bits]
  simp [trailing]

lemma encodeChar_three {c : Char} (least : 0x800 ≤ c.toNat) (most : c.toNat < 0x10000) :
    String.utf8EncodeChar c = UInt8.ofNat (c.toNat / 4096 + 0xE0) :: trailing 2 c.toNat := by
  have value : c.val.toNat = c.toNat := rfl
  have bits : c.toNat / 4096 % 0x10 = c.toNat / 4096 := by omega
  unfold String.utf8EncodeChar
  dsimp only
  rw [value, if_neg (by omega), if_neg (by omega), if_pos (by omega), bits]
  simp [trailing]

lemma encodeChar_four {c : Char} (least : 0x10000 ≤ c.toNat) :
    String.utf8EncodeChar c = UInt8.ofNat (c.toNat / 262144 + 0xF0) :: trailing 3 c.toNat := by
  have valid : c.toNat < 0xD800 ∨ 0xDFFF < c.toNat ∧ c.toNat < 0x110000 := c.valid
  have value : c.val.toNat = c.toNat := rfl
  have bits : c.toNat / 262144 % 0x08 = c.toNat / 262144 := by omega
  unfold String.utf8EncodeChar
  dsimp only
  rw [value, if_neg (by omega), if_neg (by omega), if_neg (by omega), bits]
  simp [trailing]

/-- What is known of a character that has begun: bytes in some range come next, and each number that
they can lead to from the bits that were read is that of a character, which is written with the
bytes that were read in front. -/
structure Pending.Begun (p : Pending) (read : List UInt8) : Prop where
  low : 0x80 ≤ p.low
  high : p.high ≤ 0xBF
  spells : ∀ v, v / 64 ^ (p.more + 1) = p.bits → p.low ≤ v / 64 ^ p.more % 64 + 0x80 →
    v / 64 ^ p.more % 64 + 0x80 ≤ p.high →
      ∃ c : Char, c.toNat = v ∧ String.utf8EncodeChar c = read ++ trailing (p.more + 1) v

lemma exists_char {v : Nat} (h : v < 0xD800 ∨ 0xDFFF < v ∧ v < 0x110000) :
    ∃ c : Char, c.toNat = v :=
  ⟨Char.ofNatAux v h, rfl⟩

lemma eq_ofNat {b : UInt8} {n : Nat} (h : b.toNat = n) : b = UInt8.ofNat n := by
  rw [← h, UInt8.ofNat_toNat]

/-- A byte that is a character of its own is what that character is written with. -/
lemma encodeChar_of_begin? {b : UInt8} {c : Char} (h : begin? b = some (.inl c)) :
    String.utf8EncodeChar c = [b] := by
  have single : b.toNat < 0x80 ∧ c = Char.ofNat b.toNat := by
    unfold begin? at h
    dsimp only at h
    repeat' split at h
    all_goals first
      | cases h; done
      | exact ⟨‹_›, (Sum.inl.inj (Option.some.inj h)).symm⟩
  obtain ⟨one, rfl⟩ := single
  obtain ⟨c, hc⟩ := exists_char (v := b.toNat) (.inl (by omega))
  rw [← hc, Char.ofNat_toNat, encodeChar_one (by omega), hc, UInt8.ofNat_toNat]

/-- A first byte begins characters that are written with it in front. -/
lemma begun_of_begin? {b : UInt8} {p : Pending} (h : begin? b = some (.inr p)) : p.Begun [b] := by
  have byte := b.toNat_lt
  by_cases one : b.toNat < 0x80
  · simp [begin?, one] at h
  by_cases none : b.toNat < 0xC2
  · simp [begin?, one, none] at h
  by_cases two : b.toNat < 0xE0
  · rw [begin?_two (by omega) two] at h
    cases h
    refine ⟨Nat.le_refl _, Nat.le_refl _, fun v lead _ _ => ?_⟩
    dsimp only [Nat.reduceAdd, Nat.reducePow] at lead ⊢
    obtain ⟨c, rfl⟩ := exists_char (v := v) (.inl (by omega))
    rw [eq_ofNat (b := b) (n := c.toNat / 64 + 0xC0) (by omega)]
    exact ⟨c, rfl, encodeChar_two (by omega) (by omega)⟩
  by_cases three : b.toNat < 0xF0
  · rw [begin?_three (by omega) three] at h
    cases h
    refine ⟨by dsimp only; split <;> omega, by dsimp only; split <;> omega,
      fun v lead low high => ?_⟩
    dsimp only [Nat.reduceAdd, Nat.reducePow] at lead low high ⊢
    obtain ⟨c, rfl⟩ := exists_char (v := v) (by split at high <;> omega)
    rw [eq_ofNat (b := b) (n := c.toNat / 4096 + 0xE0) (by omega)]
    exact ⟨c, rfl, encodeChar_three (by split at low <;> omega) (by omega)⟩
  by_cases four : b.toNat ≤ 0xF4
  · rw [begin?_four (by omega) four] at h
    cases h
    refine ⟨by dsimp only; split <;> omega, by dsimp only; split <;> omega,
      fun v lead low high => ?_⟩
    dsimp only [Nat.reduceAdd, Nat.reducePow] at lead low high ⊢
    obtain ⟨c, rfl⟩ := exists_char (v := v) (by split at high <;> split at low <;> omega)
    rw [eq_ofNat (b := b) (n := c.toNat / 262144 + 0xF0) (by omega)]
    exact ⟨c, rfl, encodeChar_four (by split at low <;> omega)⟩
  · have beyond : begin? b = .none := by
      unfold begin?
      dsimp only
      repeat rw [if_neg (by omega)]
    rw [beyond] at h
    cases h

/-- A next byte leaves characters that are written with it after the bytes before. -/
lemma Pending.Begun.step {p q : Pending} {read : List UInt8} {b : UInt8} (h : p.Begun read)
    (more : p.goOn? b = some (.inr q)) : q.Begun (read ++ [b]) := by
  obtain ⟨low, high, spells⟩ := h
  unfold goOn? at more
  dsimp only at more
  split at more
  · case isTrue range =>
    split at more
    · cases more
    · case h_2 n further =>
      obtain rfl := Sum.inr.inj (Option.some.inj more)
      refine ⟨Nat.le_refl _, Nat.le_refl _, fun v lead _ _ => ?_⟩
      dsimp only at lead ⊢
      rw [further, Nat.succ_eq_add_one] at spells
      have upper : v / 64 ^ (n + 1 + 1) = p.bits := by
        rw [Nat.pow_succ, ← Nat.div_div_eq_div_mul, lead]
        omega
      have next : v / 64 ^ (n + 1) % 64 + 0x80 = b.toNat := by
        rw [lead]
        omega
      obtain ⟨c, rfl, written⟩ := spells v upper (by rw [next]; exact range.1)
        (by rw [next]; exact range.2)
      refine ⟨c, rfl, ?_⟩
      rw [written, trailing, next, UInt8.ofNat_toNat, List.append_assoc]
      rfl
  · cases more

/-- A last byte ends the character that is written with the bytes before and with it. -/
lemma Pending.Begun.last {p : Pending} {read : List UInt8} {b : UInt8} {c : Char}
    (h : p.Begun read) (whole : p.goOn? b = some (.inl c)) :
    String.utf8EncodeChar c = read ++ [b] := by
  obtain ⟨low, high, spells⟩ := h
  unfold goOn? at whole
  dsimp only at whole
  split at whole
  · case isTrue range =>
    split at whole
    · case h_1 none =>
      obtain rfl := Sum.inl.inj (Option.some.inj whole)
      generalize hv : p.bits * 64 + (b.toNat - 0x80) = v
      have next : v / 64 ^ 0 % 64 + 0x80 = b.toNat := by
        rw [Nat.pow_zero, Nat.div_one]
        omega
      rw [none] at spells
      obtain ⟨c, rfl, written⟩ := spells v (by omega) (by rw [next]; exact range.1)
        (by rw [next]; exact range.2)
      rw [Char.ofNat_toNat, written, trailing, next, UInt8.ofNat_toNat]
      rfl
    · cases whole
  · cases whole

/-- Bytes that were decoded spell the text, with those before them of a character that had begun. -/
lemma decodeFrom_sound {pos : Nat} {pending : Option Pending} {bytes : List UInt8}
    {l : List Char} (h : decodeFrom pos pending bytes = .ok l) :
    match pending with
    | none => bytes = encode l
    | some p => ∀ read, p.Begun read → read ++ bytes = encode l := by
  induction bytes generalizing pos pending l with
  | nil =>
    cases pending with
    | none => cases h; rfl
    | some p => cases h
  | cons b rest ih =>
    -- a character that is whole is followed by what the rest gives
    have whole {c : Char} (read : List UInt8) (written : String.utf8EncodeChar c = read ++ [b])
        (h : (decodeFrom (pos + 1) none rest).map (c :: ·) = .ok l) :
        read ++ b :: rest = encode l := by
      cases hr : decodeFrom (pos + 1) none rest with
      | error fault => rw [hr] at h; cases h
      | ok more =>
        rw [hr] at h
        cases h
        have spelt : rest = encode more := ih hr
        rw [encode, List.flatMap_cons, written, ← encode, ← spelt, List.append_assoc,
          List.singleton_append]
    cases pending with
    | none =>
      rw [decodeFrom] at h
      split at h
      · cases h
      · case h_2 c single => exact whole [] (encodeChar_of_begin? single) h
      · case h_3 p begun => exact ih h [b] (begun_of_begin? begun)
    | some p =>
      intro read begun
      rw [decodeFrom] at h
      split at h
      · case h_1 c last => exact whole read (begun.last last) h
      · case h_2 q more =>
        rw [← List.singleton_append, ← List.append_assoc]
        exact ih h _ (begun.step more)
      · cases h

/-- **Bytes are text exactly if they are what it is encoded to.** -/
theorem decode_eq_ok_iff {bytes : List UInt8} {l : List Char} :
    decode bytes = .ok l ↔ bytes = encode l := by
  constructor
  · exact decodeFrom_sound
  · rintro rfl
    exact decode_encode l

end Text.Utf8

end ImageRelease
