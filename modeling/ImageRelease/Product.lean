/-!
What the program calls itself.
-/

namespace ImageRelease

def productName : String := "imagepub"

def productVersion : String := "1.0.0"

end ImageRelease
