import ImageRelease.Text.Piece
import ImageRelease.Text.Table.Big5
import ImageRelease.Text.Table.Gbk
import ImageRelease.Text.Table.Hkscs
/-!
Chinese charsets: the family of GB 2312 and the family of Big5.

GBK has GB 2312 as the part of bytes from A1 on, without its own additions there. GB 18030 fills the
cells that GBK leaves with characters for private use and with late ones, and adds sequences of four
bytes. The page 950 differs from Big5 in some signs, and the set of Hong Kong has rows of its own.
-/

namespace ImageRelease.Text

inductive Chinese
  | gb2312
  | gbk
  | gb18030
  | big5
  | page950
  | hongKong
  deriving DecidableEq, Repr

namespace Chinese

def gbk? (a b : Nat) : Option Char :=
  if 0x81 ≤ a ∧ 0x40 ≤ b ∧ b ≠ 0x7F ∧ b ≤ 0xFE then
    let trail := if b < 0x7F then b - 0x40 else b - 0x41
    Table.gbk.char? (2 * (a - 0x81) + trail / 95) (trail % 95)
  else none

/-- A character of GB 2312 by the bytes from A1 on. -/
def gb2312? (a b : Nat) : Option Char :=
  if a < 0xA1 ∨ b < 0xA1 ∨ 0xF8 ≤ a then none
  else if a = 0xA1 ∧ b = 0xA4 then some (Char.ofNat 0x30FB)
  else if a = 0xA1 ∧ b = 0xAA then some (Char.ofNat 0x2015)
  else if a = 0xA2 ∧ b ≤ 0xAA ∨ a = 0xA6 ∧ 0xE0 ≤ b ∨ a = 0xA8 ∧ 0xBB ≤ b ∧ b ≤ 0xC0 then none
  else gbk? a b

/-! ### GB 18030 -/

/-- Runs of characters in cells that GBK leaves: the pair that begins one, and the characters. -/
def lateRuns : List ((Nat × Nat) × List Nat) :=
  let runOf (first count : Nat) := (List.range count).map (first + ·)
  let codes (s : String) := s.toList.map Char.toNat
  [((0xA2, 0xAB), runOf 0xE766 6), ((0xA2, 0xE3), codes "€\ue76d"), ((0xA2, 0xEF), runOf 0xE76E 2),
    ((0xA2, 0xFD), runOf 0xE770 2), ((0xA4, 0xF4), runOf 0xE772 11),
    ((0xA5, 0xF7), runOf 0xE77D 8), ((0xA6, 0xB9), runOf 0xE785 8), ((0xA6, 0xD9), runOf 0xE78D 7),
    ((0xA6, 0xEC), runOf 0xE794 2), ((0xA6, 0xF3), runOf 0xE796 1), ((0xA6, 0xF6), runOf 0xE797 9),
    ((0xA7, 0xC2), runOf 0xE7A0 15), ((0xA7, 0xF2), runOf 0xE7AF 13),
    ((0xA8, 0x96), runOf 0xE7BC 11), ((0xA8, 0xBC), runOf 0xE7C7 1), ((0xA8, 0xBF), runOf 0x1F9 1),
    ((0xA8, 0xC1), runOf 0xE7C9 4), ((0xA8, 0xEA), runOf 0xE7CD 21),
    ((0xA9, 0x58), runOf 0xE7E2 1), ((0xA9, 0x5B), runOf 0xE7E3 1), ((0xA9, 0x5D), runOf 0xE7E4 3),
    ((0xA9, 0x89), codes "〾⿰⿱⿲⿳⿴⿵⿶⿷⿸⿹⿺⿻"), ((0xA9, 0x97), runOf 0xE7F4 13),
    ((0xA9, 0xF0), runOf 0xE801 15), ((0xD7, 0xFA), runOf 0xE810 5),
    ((0xFE, 0x50), codes "⺁\ue816\ue817\ue818⺄㑳㑇⺈⺋\ue81e㖞㘚㘎⺌⺗㥮㤘\ue826㧏㧟㩳㧐"),
    ((0xFE, 0x66), codes "\ue82b\ue82c㭎㱮㳠⺧\ue831\ue832⺪䁖䅟⺮䌷⺳⺶⺷\ue83b䎱䎬⺻䏝䓖䙡䙌\ue843"),
    ((0xFE, 0x80), codes "䜣䜩䝼䞍⻊䥇䥺䥽䦂䦃䦅䦆䦟䦛䦷䦶\ue854\ue855"),
    ((0xFE, 0x92), codes "䲣䲟䲠䲡䱷䲢䴓䴔䴕䴖䴗䴘䴙䶮\ue864")]

/-- A character for private use. -/
def private? (a b : Nat) : Option Nat :=
  if 0xA1 ≤ a ∧ a ≤ 0xA7 ∧ 0x40 ≤ b ∧ b ≤ 0xA0 ∧ b ≠ 0x7F then
    some (0xE4C6 + 96 * (a - 0xA1) + (if b < 0x7F then b - 0x40 else b - 0x41))
  else if 0xAA ≤ a ∧ a ≤ 0xAF ∧ 0xA1 ≤ b ∧ b ≤ 0xFE then
    some (0xE000 + 94 * (a - 0xAA) + (b - 0xA1))
  else if 0xF8 ≤ a ∧ a ≤ 0xFE ∧ 0xA1 ≤ b ∧ b ≤ 0xFE then
    some (0xE234 + 94 * (a - 0xF8) + (b - 0xA1))
  else none

def late? (a b : Nat) : Option Nat :=
  lateRuns.findSome? fun ((lead, trail), l) =>
    if lead = a ∧ trail ≤ b then l[b - trail]? else none

def pair18030? (a b : Nat) : Option Char :=
  (gbk? a b).orElse fun _ => ((private? a b).orElse fun _ => late? a b).map Char.ofNat

/-- The code points of the first plane that no pair spells: where a run of them begins, and how many
such code points come before it. -/
def unpaired : List (Nat × Nat) :=
  [(0x80, 0), (0xA5, 36), (0xA9, 38), (0xB2, 45), (0xB8, 50), (0xD8, 81), (0xE2, 89), (0xEB, 95),
    (0xEE, 96), (0xF4, 100), (0xF8, 103), (0xFB, 104), (0xFD, 105), (0x102, 109), (0x114, 126),
    (0x11C, 133), (0x12C, 148), (0x145, 172), (0x149, 175), (0x14E, 179), (0x16C, 208),
    (0x1CF, 306), (0x1D1, 307), (0x1D3, 308), (0x1D5, 309), (0x1D7, 310), (0x1D9, 311),
    (0x1DB, 312), (0x1DD, 313), (0x1FA, 341), (0x252, 428), (0x262, 443), (0x2C8, 544),
    (0x2CC, 545), (0x2DA, 558), (0x3A2, 741), (0x3AA, 742), (0x3C2, 749), (0x3CA, 750),
    (0x402, 805), (0x450, 819), (0x452, 820), (0x2011, 7922), (0x2017, 7924), (0x201A, 7925),
    (0x201E, 7927), (0x2027, 7934), (0x2031, 7943), (0x2034, 7944), (0x2036, 7945), (0x203C, 7950),
    (0x20AD, 8062), (0x2104, 8148), (0x2106, 8149), (0x210A, 8152), (0x2117, 8164), (0x2122, 8174),
    (0x216C, 8236), (0x217A, 8240), (0x2194, 8262), (0x219A, 8264), (0x2209, 8374), (0x2210, 8380),
    (0x2212, 8381), (0x2216, 8384), (0x221B, 8388), (0x2221, 8390), (0x2224, 8392), (0x2226, 8393),
    (0x222C, 8394), (0x222F, 8396), (0x2238, 8401), (0x223E, 8406), (0x2249, 8416), (0x224D, 8419),
    (0x2253, 8424), (0x2262, 8437), (0x2268, 8439), (0x2270, 8445), (0x2296, 8482), (0x229A, 8485),
    (0x22A6, 8496), (0x22C0, 8521), (0x2313, 8603), (0x246A, 8936), (0x249C, 8946), (0x254C, 9046),
    (0x2574, 9050), (0x2590, 9063), (0x2596, 9066), (0x25A2, 9076), (0x25B4, 9092), (0x25BE, 9100),
    (0x25C8, 9108), (0x25CC, 9111), (0x25D0, 9113), (0x25E6, 9131), (0x2607, 9162), (0x260A, 9164),
    (0x2641, 9218), (0x2643, 9219), (0x2E82, 11329), (0x2E85, 11331), (0x2E89, 11334),
    (0x2E8D, 11336), (0x2E98, 11346), (0x2EA8, 11361), (0x2EAB, 11363), (0x2EAF, 11366),
    (0x2EB4, 11370), (0x2EB8, 11372), (0x2EBC, 11375), (0x2ECB, 11389), (0x2FFC, 11682),
    (0x3004, 11686), (0x3018, 11687), (0x301F, 11692), (0x302A, 11694), (0x303F, 11714),
    (0x3094, 11716), (0x309F, 11723), (0x30F7, 11725), (0x30FF, 11730), (0x312A, 11736),
    (0x322A, 11982), (0x3232, 11989), (0x32A4, 12102), (0x3390, 12336), (0x339F, 12348),
    (0x33A2, 12350), (0x33C5, 12384), (0x33CF, 12393), (0x33D3, 12395), (0x33D6, 12397),
    (0x3448, 12510), (0x3474, 12553), (0x359F, 12851), (0x360F, 12962), (0x361B, 12973),
    (0x3919, 13738), (0x396F, 13823), (0x39D1, 13919), (0x39E0, 13933), (0x3A74, 14080),
    (0x3B4F, 14298), (0x3C6F, 14585), (0x3CE1, 14698), (0x4057, 15583), (0x4160, 15847),
    (0x4338, 16318), (0x43AD, 16434), (0x43B2, 16438), (0x43DE, 16481), (0x44D7, 16729),
    (0x464D, 17102), (0x4662, 17122), (0x4724, 17315), (0x472A, 17320), (0x477D, 17402),
    (0x478E, 17418), (0x4948, 17859), (0x497B, 17909), (0x497E, 17911), (0x4984, 17915),
    (0x4987, 17916), (0x499C, 17936), (0x49A0, 17939), (0x49B8, 17961), (0x4C78, 18664),
    (0x4CA4, 18703), (0x4D1A, 18814), (0x4DAF, 18962), (0x9FA6, 19043), (0xE76C, 33469),
    (0xE7C8, 33470), (0xE7E7, 33471), (0xE815, 33484), (0xE819, 33485), (0xE81F, 33490),
    (0xE827, 33497), (0xE82D, 33501), (0xE833, 33505), (0xE83C, 33513), (0xE844, 33520),
    (0xE856, 33536), (0xE865, 33550), (0xF92D, 37845), (0xF97A, 37921), (0xF996, 37948),
    (0xF9E8, 38029), (0xF9F2, 38038), (0xFA10, 38064), (0xFA12, 38065), (0xFA15, 38066),
    (0xFA19, 38069), (0xFA22, 38075), (0xFA25, 38076), (0xFA2A, 38078), (0xFE32, 39108),
    (0xFE45, 39109), (0xFE53, 39113), (0xFE58, 39114), (0xFE67, 39115), (0xFE6C, 39116),
    (0xFF5F, 39265), (0xFFE6, 39394)]

def four? (a b c d : Nat) : Option Char :=
  if 0x81 ≤ a ∧ a ≤ 0xFE ∧ 0x81 ≤ c ∧ c ≤ 0xFE ∧ 0x30 ≤ d ∧ d ≤ 0x39 then
    let tens := 10 * (126 * (10 * (a - 0x81) + (b - 0x30)) + (c - 0x81)) + (d - 0x30)
    if a < 0x85 then
      if tens < 39420 then
        ((unpaired.filter (·.2 ≤ tens)).getLast?).map fun (first, before) =>
          Char.ofNat (first + (tens - before))
      else none
    else if 0x90 ≤ a ∧ tens - 189000 ≤ 0xFFFFF then some (Char.ofNat (0x10000 + (tens - 189000)))
    else none
  else none

def piece18030 (a : UInt8) (rest : List UInt8) : Piece :=
  match rest with
  | b :: more =>
    if 0x80 ≤ a ∧ 0x30 ≤ b ∧ b ≤ 0x39 then
      match more with
      | c :: d :: _ => Piece.ofChar? (four? a.toNat b.toNat c.toNat d.toNat) 4
      | _ => .unfinished
    else Piece.singleOrPair Piece.ascii? pair18030? a rest
  | [] => Piece.singleOrPair Piece.ascii? pair18030? a rest

/-! ### Big5 -/

/-- The column of a second byte. -/
def big5Column? (b : Nat) : Option Nat :=
  if 0x40 ≤ b ∧ b ≤ 0x7E then some (b - 0x40)
  else if 0xA1 ≤ b ∧ b ≤ 0xFE then some (b - 0x62)
  else none

def big5? (a b : Nat) : Option Char := do
  let column ← big5Column? b
  if a < 0xA1 then none else Table.big5.char? (a - 0xA1) column

/-- The signs of page 950 that are not those of Big5. -/
def signs950 : List ((Nat × Nat) × Nat) :=
  [((0xA1, 0x45), 0x2027), ((0xA1, 0x4E), 0xFE51), ((0xA1, 0xC2), 0xAF), ((0xA1, 0xE3), 0xFF5E),
    ((0xA1, 0xF2), 0x2295), ((0xA1, 0xF3), 0x2299), ((0xA2, 0x41), 0x2215),
    ((0xA2, 0x42), 0xFE68), ((0xA2, 0x44), 0xFFE5), ((0xA2, 0x46), 0xFFE0),
    ((0xA2, 0x47), 0xFFE1), ((0xA3, 0xE1), 0x20AC)]

/-- The last row of page 950, from its second byte D6 on. -/
def lastRow950 : String := "碁銹裏墻恒粧嫺╔╦╗╠╬╣╚╩╝╒╤╕╞╪╡╘╧╛╓╥╖╟╫╢╙╨╜║═╭╮╰╯▓"

def pair950? (a b : Nat) : Option Char :=
  match signs950.lookup (a, b) with
  | some n => some (Char.ofNat n)
  | none =>
    if a = 0xF9 ∧ 0xD6 ≤ b then lastRow950.toList[b - 0xD6]? else big5? a b

/-- The pairs of the set of Hong Kong that are a letter and a mark over it. -/
def marked : List ((Nat × Nat) × List Nat) :=
  [((0x88, 0x62), [0xCA, 0x304]), ((0x88, 0x64), [0xCA, 0x30C]), ((0x88, 0xA3), [0xEA, 0x304]),
    ((0x88, 0xA5), [0xEA, 0x30C])]

def hongKong? (a b : Nat) : Option (List Char) := do
  let column ← big5Column? b
  let isOwn : Bool := a == 0xC6 && 0xA1 ≤ b || a == 0xC7 || a == 0xC8
  match marked.lookup (a, b), if isOwn then none else big5? a b with
  | some l, _ => some (l.map Char.ofNat)
  | none, some c => some [c]
  | none, none => if a < 0x87 then none else (Table.hkscs.char? (a - 0x87) column).map ([·])

def hongKongPiece (a : UInt8) (rest : List UInt8) : Piece :=
  match Piece.ascii? a.toNat, rest with
  | some c, _ => .read [c] 1
  | none, [] => .unfinished
  | none, b :: _ =>
    match hongKong? a.toNat b.toNat with
    | some l => .read l 2
    | none => .refused 1

def next : Chinese → UInt8 → List UInt8 → Piece
  | gb2312 => Piece.singleOrPair Piece.ascii? gb2312?
  | gbk => Piece.singleOrPair Piece.ascii? gbk?
  | gb18030 => piece18030
  | big5 => Piece.singleOrPair Piece.ascii? big5?
  | page950 => Piece.singleOrPair Piece.ascii? pair950?
  | hongKong => hongKongPiece

end Chinese

end ImageRelease.Text
