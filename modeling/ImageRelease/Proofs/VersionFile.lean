import ImageRelease.Proofs.Utf8
import ImageRelease.Proofs.WrittenEntries

/-!
The version in a file.

A file is bytes, and what is read from it has its line ends rewritten before it is looked through.
`readVersion_file` says that neither matters: a file that holds a text in UTF-8 gives the version of
that text, and any other file, or none, gives a failure that tells which. Only a path that is too
long to be looked up fails in another way.
-/

namespace ImageRelease

namespace Text

lemma lines_plainLineFeeds (text : List Char) : lines (plainLineFeeds text) = lines text := by
  fun_induction plainLineFeeds text with
  | case1 => rfl
  | case2 rest ih => exact congrArg ([] :: ·) ih
  | case3 c rest other ih =>
    have apart : c = '\r' → rest.head? ≠ some '\n' := by
      rintro rfl feed
      obtain ⟨after, rfl⟩ := List.head?_eq_some_iff.mp feed
      exact other after rfl rfl
    rw [lines_cons apart]
    by_cases cr : c = '\r'
    · rw [if_pos cr, lines_cons (absurd · (by decide)), ih, cr]
      rfl
    · rw [if_neg cr, lines_cons (absurd · cr), ih]

end Text

namespace Properties

open Text

lemma version?_plainLineFeeds (text : List Char) (key : String) :
    version? (plainLineFeeds text) key = version? text key := by
  rw [version?, parse, assignments, lines_plainLineFeeds]
  rfl

lemma readVersion_of_long {files : FileTree} {path : Path} {key : String}
    (long : files.isLong path = true) :
    readVersion files path key = .error (.longName path.text) := by
  simp [readVersion, FileTree.read?, long]

/-- **The version in a file** is that of the text that the file holds in UTF-8, whatever ends the
lines of that text. A file that holds no text fails for its bytes, and a path with no file is told
to be missing, if it is not too long to be looked up. -/
theorem readVersion_file (files : FileTree) (path : Path) (key : String) :
    (files.isLong path = false →
      (∀ text, files.file? path = some (Utf8.encode text) →
        readVersion files path key = .ok (version? text key)) ∧
      (∀ bytes, files.file? path = some bytes → (∀ text, bytes ≠ Utf8.encode text) →
        ∃ fault, readVersion files path key = .error (.notText fault)) ∧
      (files.file? path = none →
        readVersion files path key = .error (.rejected (.propertiesNotFound path.text)))) ∧
    (files.isLong path = true → readVersion files path key = .error (.longName path.text)) := by
  refine ⟨fun short => ?_, readVersion_of_long⟩
  have read : files.read? path = .ok (files.file? path) := by simp [FileTree.read?, short]
  refine ⟨fun text held => ?_, fun bytes held garbled => ?_, fun none => ?_⟩
  · simp only [readVersion, read, held, Utf8.decode_encode, version?_plainLineFeeds]
  · cases decoded : Utf8.decode bytes with
    | ok text => exact absurd (Utf8.decode_eq_ok_iff.mp decoded) (garbled text)
    | error fault => exact ⟨fault, by simp only [readVersion, read, held, decoded]⟩
  · simp only [readVersion, read, none]

/-- Files of which one holds a text with all kinds of line ends, and one holds no text. -/
def assorted : FileTree where
  entries := [(["a.properties"], .file (Utf8.encode "b=0\r\r\nb = ü\r#\n\rc=1\r".toList)),
    (["b.properties"], .file [0x62, 0x3D, 0xFF])]

theorem readVersion_file_assorted :
    readVersion assorted (Path.parse "a.properties") "b" = .ok (some "ü") ∧
      (∃ fault, readVersion assorted (Path.parse "b.properties") "b" = .error (.notText fault)) ∧
      readVersion assorted (Path.parse "c.properties") "b" =
        .error (.rejected (.propertiesNotFound "c.properties")) := by
  obtain ⟨held, -, -⟩ := (readVersion_file assorted (Path.parse "a.properties") "b").1
    (by decide +kernel)
  obtain ⟨-, garbled, -⟩ := (readVersion_file assorted (Path.parse "b.properties") "b").1
    (by decide +kernel)
  obtain ⟨-, -, missing⟩ := (readVersion_file assorted (Path.parse "c.properties") "b").1
    (by decide +kernel)
  refine ⟨?_, garbled [0x62, 0x3D, 0xFF] (by decide +kernel) fun text h => ?_,
    missing (by decide +kernel)⟩
  · rw [held "b=0\r\r\nb = ü\r#\n\rc=1\r".toList (by decide +kernel)]
    exact congrArg Except.ok (by decide +kernel)
  · cases Utf8.decode_eq_ok_iff.mpr h

/-- A name of 256 bytes, which is no file, is not told to be missing. -/
theorem readVersion_file_long :
    ({} : FileTree).file? ⟨.here, [.ofList (.replicate 256 'a')]⟩ = none ∧
      readVersion {} ⟨.here, [.ofList (.replicate 256 'a')]⟩ "djl_version" ≠
        .error (.rejected (.propertiesNotFound (.ofList (.replicate 256 'a')))) := by
  have long : ({} : FileTree).isLong ⟨.here, [.ofList (.replicate 256 'a')]⟩ = true := by
    decide +kernel
  refine ⟨by decide +kernel, ?_⟩
  rw [readVersion_of_long long]
  nofun

end Properties

end ImageRelease
