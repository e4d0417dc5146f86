import ImageRelease.Text.Split
/-!
Command lines with the values that must not be seen masked in them.
-/

namespace ImageRelease

def mask : String := "***"

/-- A text with each of the values replaced by the mask, one value after another. -/
def masked (secrets : List String) (s : String) : String :=
  secrets.foldl
    (fun s secret => .ofList (Text.replaceAll secret.toList mask.toList s.toList)) s

/-- A command line with each of the values masked in each of its arguments. -/
def redact (argv secrets : List String) : String :=
  Text.joined " " (argv.map (masked secrets))

end ImageRelease
