import ImageRelease.Text.CodeSet
/-!
The scripts that some characters of host names ask for around them.

The tables tell the characters of a script from the others that host names may have.
-/

namespace ImageRelease.Host

open Text (CodeSet)

def greek : CodeSet := ⟨
  [
    0x371, 0x3E2, 0x3F3, 0x3FD, 0x1D26, 0x1D2B, 0x1F00, 0x1FF7, 0xAB65, 0xAB66
  ]⟩

def hebrew : CodeSet := ⟨
  [
    0x591, 0x5F5, 0xFB1E, 0xFB1F
  ]⟩

/-- The letters of Hiragana, of Katakana and of Han. -/
def japanese : CodeSet := ⟨
  [
    0x3005, 0x3006, 0x3007, 0x3008, 0x3041, 0x3097, 0x309D, 0x30FB, 0x30FD, 0x30FF, 0x31F0,
    0xA000, 0xFA0E, 0xFA2A, 0x16FE3, 0x16FE4, 0x16FF0, 0x16FF2, 0x1AFF0, 0x1B168, 0x20000,
    0x3134B
  ]⟩

end ImageRelease.Host
